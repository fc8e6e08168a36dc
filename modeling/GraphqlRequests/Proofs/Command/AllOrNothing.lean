import GraphqlRequests.Proofs.Command.Target
import GraphqlRequests.Proofs.Files.Write
import GraphqlRequests.Proofs.Json.Reading

/-!
# All or nothing

A run that stops leaves the files as they are, and one that succeeds has written one file: the module
of all plans, or an introspection result that the same schema can be loaded from. Between the two is
the case in which all goes well until the file cannot be written.
-/

namespace GraphqlRequests

/-! ### Introspection results in an envelope -/

section Envelope

variable [Schema.Language] {members : List (String × Json)}
variable (plain : Json.member? "data" members = none)
include plain

omit [Schema.Language] in
theorem Introspection.unwrap_envelope :
    unwrap (.object [("data", .object members)]) = unwrap (.object members) := by
  have outer : Json.get? "data" (.object [("data", .object members)]) = some (.object members) := rfl
  have inner : Json.get? "data" (.object members) = none := plain
  unfold unwrap
  rw [outer, inner]

theorem Schema.ofIntrospection_envelope (checked : Bool) :
    ofIntrospection (.object [("data", .object members)]) checked
      = ofIntrospection (.object members) checked := by
  have same : Introspection.decode (.object [("data", .object members)])
      = Introspection.decode (.object members) := by
    unfold Introspection.decode
    simp only [Introspection.unwrap_envelope plain]
  unfold ofIntrospection
  rw [same, Introspection.unwrap_envelope plain]

theorem Schema.load_of_write_ok {files after : Files} {output text : String}
    (done : files.write output text = (after, none)) (fine : Path.isBroken output = false)
    (format : Path.suffix (Path.resolve output) ∉ Schema.textSuffixes)
    (inverse : Json.read .lenient text = .ok (.object [("data", .object members)])) :
    Schema.load after (Path.resolve output) = ofIntrospection (.object members) true := by
  unfold load
  rw [Path.isBroken_resolve fine, Files.read_of_write_ok done]
  simp only [Bool.false_eq_true, if_false, format, Json.read_normalizeBreaks, inverse]
  exact ofIntrospection_envelope plain true

end Envelope

namespace Command

variable {world after : World} {target : Target} {ending : Ending}
variable {directory : String} {arguments : List String}

/-! ### The end of a run -/

/-- Nothing has happened to the files. -/
structure World.Untouched (world after : World) : Prop where
  files : after.files = world.files
  written : after.written = world.written

/-- One file was written, and nothing else is new but directories on the way to it. -/
structure World.Wrote (world after : World) (target : Target) : Prop where
  written : after.written = some (target.path, target.text)
  stored : world.files.write target.path target.text = (after.files, none)
  file : after.files.lookup (Path.resolve target.path) = some (.file target.text)
  others : ∀ path, path ≠ Path.resolve target.path →
    after.files.lookup path = world.files.lookup path ∨
    world.files.lookup path = none ∧ after.files.lookup path = some .directory ∧
      Path.LeadsTo path target.path

/-- The file could not be written. Nothing is new but directories on the way to it. -/
structure World.Missed (world after : World) (target : Target) (cause : PathFailure) : Prop where
  written : after.written = world.written
  stored : world.files.write target.path target.text = (after.files, some cause)
  adds : Files.AddsDirectories world.files after.files (Path.LeadsTo · target.path)

theorem write_spec {done : String} (ran : world.write target done = (ending, after)) :
    ending = .done ∧ world.Wrote after target ∨
      ∃ cause, ending = .unwritten cause ∧ world.Missed after target cause := by
  unfold World.write at ran
  rcases writes : world.files.write target.path target.text with ⟨files, _ | cause⟩
  · rw [writes] at ran
    obtain ⟨rfl, rfl⟩ := Prod.mk.inj ran
    obtain ⟨file, others⟩ := Files.lookup_of_write_ok writes
    exact .inl ⟨rfl, rfl, writes, file, others⟩
  · rw [writes] at ran
    obtain ⟨rfl, rfl⟩ := Prod.mk.inj ran
    exact .inr ⟨cause, rfl, rfl, writes, Files.write_error writes⟩

theorem World.Wrote.congr {between : World} (files : between.files = world.files)
    (wrote : between.Wrote after target) : world.Wrote after target :=
  ⟨wrote.written, files ▸ wrote.stored, wrote.file, files ▸ wrote.others⟩

theorem World.Missed.congr {between : World} {cause : PathFailure}
    (files : between.files = world.files) (written : between.written = world.written)
    (missed : between.Missed after target cause) : world.Missed after target cause :=
  ⟨missed.written.trans written, files ▸ missed.stored, files ▸ missed.adds⟩

section Runs

variable [Libraries] {invocation : Invocation}

/-- A command stops and leaves the files alone, or it makes its text. Then the text is written, or
the files refuse it. -/
theorem perform_spec (ran : perform directory invocation world = (ending, after)) :
    (∃ stop, ending = .stopped stop ∧ world.Untouched after) ∨
    ∃ target, world.Makes target invocation ∧ Path.isBroken target.path = false ∧
      (ending = .done ∧ world.Wrote after target ∨
        ∃ cause, ending = .unwritten cause ∧ world.Missed after target cause) := by
  unfold perform at ran
  split at ran
  · next stop stopped makes =>
    obtain ⟨rfl, rfl⟩ := Prod.mk.inj ran
    obtain ⟨files, written⟩ := readsOnly_make invocation _ _ _ makes
    exact .inl ⟨stop, rfl, files, written⟩
  · next target between makes =>
    -- Making the target only reads, so it is written to the files that were there before.
    obtain ⟨files, written⟩ := readsOnly_make invocation _ _ _ makes
    obtain ⟨target_of, fine⟩ := makes_of_make_ok makes
    refine .inr ⟨target, target_of, fine, ?_⟩
    rcases write_spec ran with ⟨done, wrote⟩ | ⟨cause, unwritten, missed⟩
    · exact .inl ⟨done, wrote.congr files⟩
    · exact .inr ⟨cause, unwritten, missed.congr files written⟩

/-- A run that stops leaves the files as they were. One that succeeds has written one text: the module
of all plans, or an introspection result that is loaded again. One that makes its text and cannot
write it leaves all files as they were, though not always all directories. -/
theorem run_all_or_nothing (ran : run directory arguments world = (ending, after)) :
    (∀ stop, ending = .stopped stop → world.Untouched after) ∧
    (∀ cause, ending = .unwritten cause → ∃ invocation target,
      Libraries.invocation world.files arguments = .ok invocation ∧
        world.Makes target invocation ∧ world.Missed after target cause) ∧
    (ending = .done → ∃ invocation target,
      Libraries.invocation world.files arguments = .ok invocation ∧
        world.Makes target invocation ∧ world.Wrote after target ∧
        ∀ options data schema content, invocation = .fetch options →
          world.Fetches options data schema → data = .object [("__schema", content)] →
          Path.suffix (Path.resolve target.path) ∉ Schema.textSuffixes →
          Json.read .lenient target.text = .ok (.object [("data", data)]) →
          Schema.load after.files (Path.resolve target.path) = .ok schema) := by
  unfold run at ran
  split at ran
  · obtain ⟨rfl, rfl⟩ := Prod.mk.inj ran
    exact ⟨fun _ _ => ⟨rfl, rfl⟩, nofun, nofun⟩
  · next invocation named =>
    rcases perform_spec ran with
      ⟨stop, rfl, untouched⟩ | ⟨target, makes, fine, ⟨rfl, wrote⟩ | ⟨cause, rfl, missed⟩⟩
    · exact ⟨fun _ _ => untouched, nofun, nofun⟩
    · refine ⟨nofun, nofun, fun _ => ⟨invocation, target, named, makes, wrote, ?_⟩⟩
      rintro options data schema content - ⟨headers, -, -, decoded⟩ rfl format inverse
      rw [← decoded]
      exact Schema.load_of_write_ok rfl wrote.stored fine format inverse
    · refine ⟨nofun, fun other same => ?_, nofun⟩
      obtain rfl := Ending.unwritten.inj same
      exact ⟨invocation, target, named, makes, missed⟩

end Runs

/-! ### A run that succeeds -/

def islet : Json :=
  .object [("types", .array [.object [("kind", .string "OBJECT"), ("name", .string "Q"),
    ("fields", .array []), ("interfaces", .array [])]]),
    ("queryType", .object [("name", .string "Q")])]

def islets : Json :=
  .object [("__schema", islet)]

def beacon : World where
  files := [("s.json", .file "old")]
  connection := { replies := [.answer 200 (Json.object [("data", islets)]).compact] }

def hail : List String := ["fetch", "-u", "http://h", "-o", "s.json"]

/-- Libraries that know one command line, send every request as it is given and pass every
introspection result. -/
local instance hailing : Libraries where
  accepts _ := true
  request? url headers := some { url, headers }
  check _ := .pass
  introspect _ := .error .unreadable
  validate _ := .error []
  invocation _ arguments :=
    if arguments = hail then .ok (.fetch { url := "http://h", output := "s.json" })
    else .error .noCommand
  layout _ _ _ := .error "No layout"

theorem run_all_or_nothing_of_beacon : ∃ after schema,
    run "/" hail beacon = (.done, after) ∧
    after.files.lookup "s.json" = some (.file (Json.object [("data", islets)]).pretty) ∧
    Schema.load after.files "s.json" = .ok schema := by
  have done : (run "/" hail beacon).1 = .done := by decide +kernel
  have fetched : (beacon.connection.fetch "http://h" []).1 = .ok islets :=
    ok_of_toOption (by decide +kernel)
  have inverse : Json.read .lenient (Json.object [("data", islets)]).pretty
      = .ok (.object [("data", islets)]) := by
    apply ok_of_toOption
    -- The characters of a long text are dear to compute, those of its pieces are not.
    simp only [islets, islet, Json.read, Json.pretty, Json.prettyAt, Json.prettyItems,
      Json.prettyMembers, Json.scalarText, Json.quoted, Json.newline, String.toList_append,
      String.toList_ofList]
    decide +kernel
  rcases ran : run "/" hail beacon with ⟨ending, after⟩
  rw [ran] at done
  obtain rfl : ending = .done := done
  obtain ⟨-, -, wrote⟩ := run_all_or_nothing ran
  obtain ⟨invocation, target, named, makes, wrote, loads⟩ := wrote rfl
  obtain rfl := Except.ok.inj named
  obtain ⟨path, data, schema, fetches, text⟩ := makes
  obtain ⟨headers, parsed, received, -⟩ := id fetches
  obtain rfl : [] = headers := Except.ok.inj parsed
  obtain rfl := Except.ok.inj (fetched.symm.trans received)
  have place : Path.resolve target.path = "s.json" := by
    rw [path]
    decide
  have loaded := loads _ _ schema islet rfl fetches rfl
  have file := wrote.file
  rw [text, place] at loaded
  rw [text, place] at file
  exact ⟨after, schema, rfl, file, loaded (by decide) inverse⟩

end Command

end GraphqlRequests
