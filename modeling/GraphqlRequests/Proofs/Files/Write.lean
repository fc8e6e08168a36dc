import GraphqlRequests.Proofs.Files.Paths

/-!
# Writing files

A write that succeeds puts one file where its path leads, and makes the directories on the way that
were missing. Nothing else changes, and the file can be read. One that fails changes nothing but that
it may have made such directories.
-/

namespace GraphqlRequests

/-- The path is that of a directory on the way to where the other one leads. -/
def Path.LeadsTo (directory path : String) : Prop :=
  ∃ parts, parts <+: (placeParts path).dropLast ∧ directory = spell (isAbsolute path) parts

namespace Files

/-- Only directories were added, all of them at paths of some kind. -/
def AddsDirectories (before after : Files) (onWay : String → Prop) : Prop :=
  ∀ path, after.lookup path = before.lookup path ∨
    before.lookup path = none ∧ after.lookup path = some .directory ∧ onWay path

variable {files made : Files} {path other : String} {entry : Entry} {absolute : Bool}
variable {place parts : List String}

/-! ### One entry -/

theorem lookup_put : (files.put path entry).lookup other
    = if other = path then some entry else files.lookup other := by
  unfold put
  rw [List.lookup_cons]
  by_cases same : other = path
  · simp [same]
  · have differs : (other == path) = false := by simpa using same
    rw [differs, if_neg same]
    induction files with
    | nil => rfl
    | cons e rest ih =>
      obtain ⟨p, _⟩ := e
      by_cases replaced : p = path
      · have skipped : (other == p) = false := by simpa [replaced] using same
        simpa [replaced, List.lookup_cons, skipped, differs] using ih
      · simp only [List.filter_cons, ne_eq, replaced, not_false_eq_true, decide_true, if_true,
          List.lookup_cons]
        cases other == p with
        | true => rfl
        | false => exact ih

theorem leadsOn_put (leads : files.leadsOn path = true) :
    (files.put other entry).leadsOn path = true := by
  unfold leadsOn put at *
  obtain ⟨e, member, below⟩ := List.any_eq_true.mp leads
  rw [List.any_cons]
  by_cases replaced : e.1 = other
  · rw [replaced] at below
    simp [below]
  · have kept : e ∈ files.filter (·.1 ≠ other) := List.mem_filter.mpr ⟨member, by simpa⟩
    rw [List.any_eq_true.mpr ⟨e, kept, below⟩, Bool.or_true]

theorem isDirectory_iff : files.entryAt? absolute place = some .directory ↔
    (∀ part ∈ place, part = "..") ∨
    files.lookup (Path.spell absolute place.reverse) = some .directory ∨
    files.lookup (Path.spell absolute place.reverse) = none ∧
      files.leadsOn (Path.spell absolute place.reverse) = true := by
  unfold entryAt?
  by_cases ups : ∀ part ∈ place, part = ".."
  · have whole : place.all (· = "..") = true := by simpa using ups
    rw [if_pos whole]
    exact iff_of_true rfl (.inl ups)
  · have inner : place.all (· = "..") = false := by simpa using ups
    simp only [inner, ups, Bool.false_eq_true, if_false, false_or]
    cases files.lookup (Path.spell absolute place.reverse) <;> simp

theorem isNothing_iff : files.entryAt? absolute place = none ↔
    ¬(∀ part ∈ place, part = "..") ∧
    files.lookup (Path.spell absolute place.reverse) = none ∧
    files.leadsOn (Path.spell absolute place.reverse) = false := by
  unfold entryAt?
  by_cases ups : ∀ part ∈ place, part = ".."
  · have whole : place.all (· = "..") = true := by simpa using ups
    rw [if_pos whole]
    exact iff_of_false (by simp) fun nothing => nothing.1 ups
  · have inner : place.all (· = "..") = false := by simpa using ups
    simp only [inner, ups, Bool.false_eq_true, if_false, not_false_eq_true, true_and]
    cases files.lookup (Path.spell absolute place.reverse) <;> simp

theorem isDirectory_put (directory : files.entryAt? absolute place = some .directory)
    (fits : entry = .directory ∨ Path.spell absolute place.reverse ≠ path) :
    (files.put path entry).entryAt? absolute place = some .directory := by
  rw [isDirectory_iff] at directory ⊢
  rcases directory with ups | there
  · exact .inl ups
  right
  rw [lookup_put]
  by_cases same : Path.spell absolute place.reverse = path
  · rw [if_pos same, fits.resolve_right (not_not_intro same)]
    exact .inl rfl
  · rw [if_neg same]
    exact there.imp_right fun ⟨unlisted, leads⟩ => ⟨unlisted, leadsOn_put leads⟩

/-! ### Directories -/

theorem AddsDirectories.refl (files : Files) (onWay : String → Prop) :
    AddsDirectories files files onWay :=
  fun _ => .inl rfl

theorem AddsDirectories.mono {onWay wider : String → Prop}
    (adds : AddsDirectories files made onWay) (wide : ∀ path, onWay path → wider path) :
    AddsDirectories files made wider :=
  fun path => (adds path).imp_right fun ⟨before, after, on⟩ => ⟨before, after, wide path on⟩

theorem AddsDirectories.trans {next : Files} {onWay : String → Prop}
    (first : AddsDirectories files made onWay) (second : AddsDirectories made next onWay) :
    AddsDirectories files next onWay := by
  intro path
  rcases second path with same | ⟨before, after, on⟩
  · rw [same]
    exact first path
  · rcases first path with same | ⟨_, already, _⟩
    · exact .inr ⟨same.symm.trans before, after, on⟩
    · rw [already] at before
      cases before

theorem makeDirectory?_ok (done : files.makeDirectory? absolute place = some made) :
    AddsDirectories files made (· = Path.spell absolute place.reverse) ∧
      made.entryAt? absolute place = some .directory ∧
      ∀ before, files.entryAt? absolute before = some .directory →
        made.entryAt? absolute before = some .directory := by
  unfold makeDirectory? at done
  split at done
  · next nothing =>
    obtain rfl := Option.some.inj done
    obtain ⟨-, unlisted, -⟩ := isNothing_iff.mp nothing
    refine ⟨fun path => ?_, ?_, fun before directory => isDirectory_put directory (.inl rfl)⟩
    · rw [lookup_put]
      split
      · next here =>
        rw [here]
        exact .inr ⟨unlisted, rfl, rfl⟩
      · exact .inl rfl
    · exact isDirectory_iff.mpr (.inr (.inl (by rw [lookup_put, if_pos rfl])))
  · next directory =>
    obtain rfl := Option.some.inj done
    exact ⟨.refl files _, directory, fun _ standing => standing⟩
  · cases done

theorem makeDirectories_spec {failure : Option PathFailure}
    (done : files.makeDirectories absolute place parts = (made, failure)) :
    AddsDirectories files made
      (fun path => ∃ way, way <+: parts ∧ path = Path.spell absolute (place.reverse ++ way)) ∧
    (∀ before, files.entryAt? absolute before = some .directory →
      made.entryAt? absolute before = some .directory) ∧
    (failure = none → (∀ part ∈ parts, Path.size part ≤ Path.longestName) ∧
      ∀ way, way <+: parts →
        made.entryAt? absolute (way.reverse ++ place) = some .directory) := by
  -- Each part moves the place on and may change the files, so the claim is for all of both.
  induction parts generalizing files place with
  | nil =>
    unfold makeDirectories at done
    cases step : files.makeDirectory? absolute place with
    | none =>
      rw [step] at done
      obtain ⟨rfl, rfl⟩ := Prod.mk.inj done
      exact ⟨.refl _ _, fun _ standing => standing, by simp⟩
    | some next =>
      rw [step] at done
      obtain ⟨rfl, rfl⟩ := Prod.mk.inj done
      obtain ⟨adds, here, keeps⟩ := makeDirectory?_ok step
      refine ⟨adds.mono fun path same => ⟨[], List.prefix_rfl, by simpa using same⟩, keeps, ?_⟩
      refine fun _ => ⟨by simp, fun way short => ?_⟩
      rw [List.prefix_nil.mp short]
      exact here
  | cons part rest ih =>
    unfold makeDirectories at done
    cases step : files.makeDirectory? absolute place with
    | none =>
      rw [step] at done
      obtain ⟨rfl, rfl⟩ := Prod.mk.inj done
      exact ⟨.refl _ _, fun _ standing => standing, by simp⟩
    | some next =>
      rw [step] at done
      obtain ⟨adds, here, keeps⟩ := makeDirectory?_ok step
      have first : AddsDirectories files next fun path =>
          ∃ way, way <+: part :: rest ∧ path = Path.spell absolute (place.reverse ++ way) :=
        adds.mono fun path same => ⟨[], List.nil_prefix, by simpa using same⟩
      simp only at done
      split at done
      · obtain ⟨rfl, rfl⟩ := Prod.mk.inj done
        exact ⟨first, keeps, by simp⟩
      · next fits =>
        obtain ⟨more, still, all⟩ := ih done
        refine ⟨first.trans (more.mono ?_), fun before standing => still _ (keeps _ standing), ?_⟩
        · rintro path ⟨way, short, rfl⟩
          exact ⟨part :: way, (List.prefix_cons_inj part).mpr short, by simp⟩
        · intro fine
          obtain ⟨sizes, directories⟩ := all fine
          refine ⟨List.forall_mem_cons.mpr ⟨by omega, sizes⟩, fun way short => ?_⟩
          cases way with
          | nil => exact still _ here
          | cons other way =>
            obtain ⟨rfl, shorter⟩ := List.cons_prefix_cons.mp short
            simpa using directories way shorter

/-! ### The file -/

variable {text : String} {cause : PathFailure}

theorem writeText_ok (done : files.writeText absolute parts text = (made, none)) :
    made = files.put (Path.spell absolute parts) (.file text) ∧
      Path.size (Path.spell absolute parts) < Path.tooLongPath ∧
      Path.size (parts.getLast?.getD "") ≤ Path.longestName ∧
      files.entryAt? absolute parts.reverse ≠ some .directory := by
  unfold writeText at done
  simp only at done
  split at done
  · cases (Prod.mk.inj done).2
  · next fits =>
    split at done
    · cases (Prod.mk.inj done).2
    · next free => exact ⟨(Prod.mk.inj done).1.symm, by omega, by omega, free⟩

theorem writeText_error (failed : files.writeText absolute parts text = (made, some cause)) :
    made = files := by
  unfold writeText at failed
  simp only at failed
  split at failed
  · exact (Prod.mk.inj failed).1.symm
  · split at failed
    · exact (Prod.mk.inj failed).1.symm
    · cases (Prod.mk.inj failed).2

theorem directories_spec {failure : Option PathFailure}
    (done : files.makeDirectories (Path.isAbsolute path) [] (Path.placeParts path).dropLast
      = (made, failure)) :
    AddsDirectories files made (Path.LeadsTo · path) ∧
    (failure = none → (∀ part ∈ (Path.placeParts path).dropLast,
        Path.size part ≤ Path.longestName) ∧
      ∀ way, way <+: (Path.placeParts path).dropLast →
        made.entryAt? (Path.isAbsolute path) way.reverse = some .directory) := by
  obtain ⟨adds, -, all⟩ := makeDirectories_spec done
  refine ⟨adds.mono ?_, fun fine => ⟨(all fine).1, ?_⟩⟩
  case refine_2 => exact fun way short => by simpa using (all fine).2 way short
  rintro other ⟨way, short, same⟩
  exact ⟨way, short, by simpa using same⟩

theorem write_error (failed : files.write path text = (made, some cause)) :
    AddsDirectories files made (Path.LeadsTo · path) := by
  unfold write at failed
  simp only at failed
  split at failed
  · obtain ⟨rfl, -⟩ := Prod.mk.inj failed
    exact .refl _ _
  · split at failed
    · next directories =>
      obtain ⟨rfl, -⟩ := Prod.mk.inj failed
      exact (directories_spec directories).1
    · next directories =>
      rw [writeText_error failed]
      exact (directories_spec directories).1

theorem write_ok {after : Files} (done : files.write path text = (after, none)) :
    ∃ made, AddsDirectories files made (Path.LeadsTo · path) ∧
      after = made.put (Path.resolve path) (.file text) ∧
      (∀ way, way <+: (Path.placeParts path).dropLast →
        made.entryAt? (Path.isAbsolute path) way.reverse = some .directory) ∧
      made.entryAt? (Path.isAbsolute path) (Path.placeParts path).reverse ≠ some .directory ∧
      Path.size (Path.resolve path) < Path.tooLongPath ∧
      ∀ part ∈ Path.placeParts path, Path.size part ≤ Path.longestName := by
  unfold write at done
  simp only at done
  split at done
  · cases (Prod.mk.inj done).2
  · split at done
    · cases (Prod.mk.inj done).2
    · next made directories =>
      obtain ⟨adds, all⟩ := directories_spec directories
      obtain ⟨sizes, standing⟩ := all rfl
      obtain ⟨put, short, name, free⟩ := writeText_ok done
      refine ⟨made, adds, put, standing, free, short, ?_⟩
      rcases List.eq_nil_or_concat (Path.placeParts path) with none | ⟨way, last, split⟩
      · simp [none]
      · rw [split] at sizes name ⊢
        simpa [or_imp, forall_and] using And.intro sizes name

/-- After a write that succeeds there is one file with the text, and nothing else is new but
directories on the way to it. -/
theorem lookup_of_write_ok {after : Files} (done : files.write path text = (after, none)) :
    after.lookup (Path.resolve path) = some (.file text) ∧
    ∀ other, other ≠ Path.resolve path → after.lookup other = files.lookup other ∨
      files.lookup other = none ∧ after.lookup other = some .directory ∧
        Path.LeadsTo other path := by
  obtain ⟨made, adds, rfl, -⟩ := write_ok done
  refine ⟨by rw [lookup_put, if_pos rfl], fun other differs => ?_⟩
  rw [lookup_put, if_neg differs]
  exact adds other

/-! ### Reading what was written -/

theorem entryAt?_of_lookup (inner : ¬∀ part ∈ place, part = "..")
    (listed : files.lookup (Path.spell absolute place.reverse) = some entry) :
    files.entryAt? absolute place = some entry := by
  have below : place.all (· = "..") = false := by simpa using inner
  unfold entryAt?
  simp only [below, listed, Bool.false_eq_true, if_false]

theorem follow_eq (isPlace : Path.IsPlace absolute (parts.reverse ++ place))
    (directories : ∀ way, way <+: parts → way ≠ parts →
      files.entryAt? absolute (way.reverse ++ place) = some .directory)
    (sizes : ∀ part ∈ parts, Path.size part ≤ Path.longestName)
    (there : files.entryAt? absolute (parts.reverse ++ place) = some entry) :
    files.follow absolute place parts = .entry entry := by
  induction parts generalizing place with
  | nil =>
    unfold follow
    rw [List.reverse_nil, List.nil_append] at there
    rw [there]
  | cons part rest ih =>
    rw [List.reverse_cons, List.append_assoc, List.singleton_append] at isPlace there
    obtain ⟨here, others⟩ := List.forall_mem_cons.mp sizes
    have opened : files.entryAt? absolute place = some .directory :=
      directories [] List.nil_prefix (List.cons_ne_nil _ _).symm
    have beyond := isPlace.of_append
    have moves : Path.stays part = false := (beyond.forall_isPart part List.mem_cons_self).1
    unfold follow
    rw [if_neg (not_not_intro opened), moves, if_neg Bool.false_ne_true, if_neg (by omega),
      beyond.advance_eq]
    -- A way from the part on is, with the part before it, one from the place above.
    refine ih isPlace (fun way short other => ?_) others there
    have longer := directories (part :: way) ((List.prefix_cons_inj part).mpr short)
      (by simpa using other)
    simpa using longer

theorem find_resolve (nonempty : Path.placeParts path ≠ [])
    (short : Path.size (Path.resolve path) < Path.tooLongPath)
    (followed : files.follow (Path.isAbsolute path) [] (Path.placeParts path) = .entry entry) :
    files.find (Path.text (Path.resolve path)) = .entry entry := by
  have all := Path.forall_isPart_placeParts path
  have shortest : Path.text (Path.resolve path) = Path.resolve path :=
    Path.text_spell all nonempty
  have given : Path.resolve path ≠ "" := Path.spell_ne_empty all nonempty
  have absolute : Path.isAbsolute (Path.resolve path) = Path.isAbsolute path :=
    Path.isAbsolute_spell all nonempty
  have steps : Path.steps (Path.resolve path) = if Path.isAbsolute path then
      "" :: Path.placeParts path else Path.placeParts path := Path.steps_spell all nonempty
  unfold find
  rw [shortest, if_neg given, if_neg (by omega), absolute, steps]
  split
  · next root =>
    rw [root] at followed ⊢
    unfold follow
    have here : files.entryAt? true [] = some .directory := rfl
    rw [if_neg (not_not_intro here)]
    exact followed
  · exact followed

theorem spell_ne_resolve {way : List String} (first : way <+: Path.placeParts path)
    (other : way ≠ Path.placeParts path) :
    Path.spell (Path.isAbsolute path) way ≠ Path.resolve path := by
  have all := Path.forall_isPart_placeParts path
  intro same
  have parts : Path.parts (Path.spell (Path.isAbsolute path) way) = way :=
    Path.parts_spell fun part member => all part (first.subset member)
  have whole : Path.parts (Path.resolve path) = Path.placeParts path := Path.parts_spell all
  rw [same, whole] at parts
  exact other parts.symm

theorem prefix_dropLast {way : List String} (first : way <+: parts) (other : way ≠ parts) :
    way <+: parts.dropLast := by
  rcases List.eq_nil_or_concat parts with none | ⟨init, last, split⟩
  · rw [none] at first other
    exact absurd (List.prefix_nil.mp first) other
  · rw [split, List.concat_eq_append] at first other ⊢
    rw [List.dropLast_concat]
    exact (List.prefix_concat_iff.mp first).resolve_left other

theorem read_of_write_ok {after : Files} (done : files.write path text = (after, none)) :
    after.read (Path.resolve path) = .ok (String.ofList (Text.normalizeBreaks text.toList)) := by
  obtain ⟨made, -, put, standing, free, short, sizes⟩ := write_ok done
  have inner : ¬∀ part ∈ (Path.placeParts path).reverse, part = ".." :=
    fun ups => free (isDirectory_iff.mpr (.inl ups))
  have nonempty : Path.placeParts path ≠ [] := by
    intro none
    simp [none] at inner
  have there : after.entryAt? (Path.isAbsolute path) (Path.placeParts path).reverse
      = some (.file text) := by
    refine entryAt?_of_lookup inner ?_
    rw [List.reverse_reverse, put]
    exact lookup_put.trans (if_pos rfl)
  have directories : ∀ way, way <+: Path.placeParts path → way ≠ Path.placeParts path →
      after.entryAt? (Path.isAbsolute path) way.reverse = some .directory := by
    intro way first other
    rw [put]
    refine isDirectory_put (standing way (prefix_dropLast first other)) (.inr ?_)
    rw [List.reverse_reverse]
    exact spell_ne_resolve first other
  have followed : after.follow (Path.isAbsolute path) [] (Path.placeParts path)
      = .entry (.file text) :=
    follow_eq (by simpa using Path.isPlace_placeParts path) (by simpa using directories) sizes
      (by simpa using there)
  unfold read
  rw [find_resolve nonempty short followed]

end Files

end GraphqlRequests
