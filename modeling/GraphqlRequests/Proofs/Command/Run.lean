import GraphqlRequests.Command.Run

/-!
# Runs of commands

A run is taken apart into its steps. Each step before the writing reads only: it leaves the files as
they are, whether it succeeds or stops.
-/

namespace GraphqlRequests.Command

namespace Run

variable {α β ε : Type} {world after : World} {stop : Stop}

/-! ### Steps in order -/

section Steps

variable {first : Run α} {next : α → Run β}

theorem run_bind : (first >>= next).run world = match first.run world with
    | (.ok a, between) => (next a).run between
    | (.error stop, between) => (.error stop, between) := by
  change ExceptT.bindCont next (first.run world).1 (first.run world).2 = _
  rcases first.run world with ⟨_ | _, _⟩ <;> rfl

theorem bind_ok {b : β} (done : (first >>= next).run world = (.ok b, after)) :
    ∃ a between, first.run world = (.ok a, between) ∧ (next a).run between = (.ok b, after) := by
  rw [run_bind] at done
  split at done
  · next a between ran => exact ⟨a, between, ran, done⟩
  · cases (Prod.mk.inj done).1

theorem bind_error (stopped : (first >>= next).run world = (.error stop, after)) :
    first.run world = (.error stop, after) ∨
    ∃ a between, first.run world = (.ok a, between) ∧
      (next a).run between = (.error stop, after) := by
  rw [run_bind] at stopped
  split at stopped
  · next a between ran => exact .inr ⟨a, between, ran, stopped⟩
  · next cause between ran =>
    obtain ⟨same, rfl⟩ := Prod.mk.inj stopped
    obtain rfl := Except.error.inj same
    exact .inl ran

end Steps

/-! ### Single steps -/

theorem run_orStop (cause : ε → Stop) (result : Except ε α) :
    (orStop cause result).run world = (result.mapError cause, world) := by
  cases result <;> rfl

theorem orStop_ok {cause : ε → Stop} {result : Except ε α} {a : α}
    (done : (orStop cause result).run world = (.ok a, after)) : result = .ok a ∧ after = world := by
  rw [run_orStop] at done
  obtain ⟨same, rfl⟩ := Prod.mk.inj done
  cases result with
  | ok => exact ⟨congrArg _ (Except.ok.inj same), rfl⟩
  | error => cases same

section Known

variable {b : β}

theorem run_get_bind (next : World → Run β) : (get >>= next).run world = (next world).run world :=
  rfl

theorem run_print_bind (line : String) (next : Unit → Run β) : (print line >>= next).run world
    = (next ()).run { world with printed := world.printed ++ [line] } :=
  rfl

theorem orStop_bind_ok {cause : ε → Stop} {result : Except ε α} {next : α → Run β}
    (done : (orStop cause result >>= next).run world = (.ok b, after)) :
    ∃ a, result = .ok a ∧ (next a).run world = (.ok b, after) := by
  obtain ⟨a, between, ran, later⟩ := bind_ok done
  obtain ⟨known, rfl⟩ := orStop_ok ran
  exact ⟨a, known, later⟩

theorem checkOutput_bind_ok {path : String} {next : Unit → Run β}
    (done : (checkOutput path >>= next).run world = (.ok b, after)) :
    Path.isBroken path = false ∧ (next ()).run world = (.ok b, after) := by
  unfold checkOutput at done
  split at done
  · cases (Prod.mk.inj done).1
  · next fine => exact ⟨Bool.eq_false_iff.mpr fine, done⟩

end Known

/-! ### Reading -/

/-- The action leaves the files alone, whatever comes of it. -/
def ReadsOnly (action : Run α) : Prop :=
  ∀ world result after, action.run world = (result, after) →
    after.files = world.files ∧ after.written = world.written

namespace ReadsOnly

theorem bind {first : Run α} {next : α → Run β} (reads : ReadsOnly first)
    (reads' : ∀ a, ReadsOnly (next a)) : ReadsOnly (first >>= next) := by
  intro world result after ran
  cases result with
  | error stop =>
    rcases bind_error ran with stopped | ⟨a, between, ran, stopped⟩
    · exact reads _ _ _ stopped
    · obtain ⟨files, written⟩ := reads _ _ _ ran
      rw [← files, ← written]
      exact reads' a _ _ _ stopped
  | ok b =>
    obtain ⟨a, between, ran, done⟩ := bind_ok ran
    obtain ⟨files, written⟩ := reads _ _ _ ran
    rw [← files, ← written]
    exact reads' a _ _ _ done

theorem bind_ok {first : Run α} {next : α → Run β} {b : β} (reads : ReadsOnly first)
    (done : (first >>= next).run world = (.ok b, after)) :
    ∃ a between, first.run world = (.ok a, between) ∧ between.files = world.files ∧
      (next a).run between = (.ok b, after) := by
  obtain ⟨a, between, ran, later⟩ := Run.bind_ok done
  exact ⟨a, between, ran, (reads _ _ _ ran).1, later⟩

theorem of_run {action : Run α} {result : World → Except Stop α} {change : World → World}
    (ran : ∀ world, action.run world = (result world, change world))
    (files : ∀ world, (change world).files = world.files)
    (written : ∀ world, (change world).written = world.written) : ReadsOnly action := by
  intro world found after ended
  obtain ⟨-, rfl⟩ := Prod.mk.inj ((ran world).symm.trans ended)
  exact ⟨files world, written world⟩

theorem pure (a : α) : ReadsOnly (Pure.pure a) :=
  of_run (fun _ => rfl) (fun _ => rfl) fun _ => rfl

theorem throw (stop : Stop) : ReadsOnly (MonadExcept.throw stop : Run α) :=
  of_run (fun _ => rfl) (fun _ => rfl) fun _ => rfl

theorem get : ReadsOnly (MonadState.get : Run World) :=
  of_run (fun _ => rfl) (fun _ => rfl) fun _ => rfl

theorem print (line : String) : ReadsOnly (Run.print line) :=
  of_run (fun _ => rfl) (fun _ => rfl) fun _ => rfl

theorem orStop (cause : ε → Stop) (result : Except ε α) : ReadsOnly (Run.orStop cause result) :=
  of_run (fun _ => run_orStop cause result) (fun _ => rfl) fun _ => rfl

theorem orFail (cause : ε → Failure) (result : Except ε α) :
    ReadsOnly (Run.orFail cause result) :=
  orStop _ result

theorem headers (lines : List String) : ReadsOnly (Run.headers lines) :=
  orStop _ _

theorem checkOutput (path : String) : ReadsOnly (Run.checkOutput path) := by
  unfold Run.checkOutput
  split
  · exact throw _
  · exact pure ()

theorem printIf (wanted : Bool) (lines : List String) : ReadsOnly (Run.printIf wanted lines) := by
  have all : ReadsOnly (lines.forM Run.print) := by
    induction lines with
    | nil => exact pure ()
    | cons line rest ih => exact (print line).bind fun _ => ih
  unfold Run.printIf
  split
  · exact all
  · exact pure ()

theorem laidOut (layout : Option Layout) (module : RequestModule) :
    ReadsOnly (Run.laidOut layout module) := by
  cases layout with
  | none => exact orFail _ _
  | some layout => exact orStop _ _

end ReadsOnly

/-! ### Steps that use libraries -/

section Libraries

variable [Libraries]

theorem run_fetch (url : String) (headers : List (String × String)) :
    (fetch url headers).run world
      = ((world.connection.fetch url headers).1.mapError fun cause => .failed (.fetch cause),
        { world with
          connection := (world.connection.fetch url headers).2.2.close
          requests := world.requests ++ (world.connection.fetch url headers).2.1.toList }) := by
  rw [← run_orStop]
  rfl

namespace ReadsOnly

theorem fetch (url : String) (headers : List (String × String)) :
    ReadsOnly (Run.fetch url headers) :=
  of_run (fun _ => run_fetch url headers) (fun _ => rfl) fun _ => rfl

theorem localSchema (source : String) : ReadsOnly (Run.localSchema source) := by
  unfold Run.localSchema
  refine get.bind fun world => ?_
  dsimp only
  split
  · exact throw _
  · exact throw _
  · exact orFail _ _

theorem schema (source : String) (headers : List (String × String)) :
    ReadsOnly (Run.schema source headers) := by
  unfold Run.schema
  split
  · exact (fetch source headers).bind fun _ => orFail _ _
  · exact localSchema source

theorem config (path : Option String) : ReadsOnly (Run.config path) := by
  cases path with
  | none => exact pure _
  | some path => exact get.bind fun _ => orFail _ _

end ReadsOnly

end Libraries

end Run

/-! ### Whole texts -/

variable [Libraries]

open Run

theorem readsOnly_makeModule (options : GenerateOptions) : ReadsOnly (makeModule options) := by
  unfold makeModule
  refine (ReadsOnly.checkOutput _).bind fun _ => ?_
  refine (ReadsOnly.print _).bind fun _ => ?_
  refine (ReadsOnly.headers _).bind fun headers => ?_
  refine (ReadsOnly.schema _ _).bind fun schema => ?_
  refine (ReadsOnly.config _).bind fun config => ?_
  refine (ReadsOnly.printIf _ _).bind fun _ => ?_
  refine (ReadsOnly.print _).bind fun _ => ?_
  refine (ReadsOnly.orFail _ _).bind fun module => ?_
  refine ReadsOnly.get.bind fun world => ?_
  refine (ReadsOnly.laidOut _ _).bind fun text => ?_
  exact (ReadsOnly.orFail _ _).bind fun code => .pure _

theorem readsOnly_makeResult (options : FetchOptions) : ReadsOnly (makeResult options) := by
  unfold makeResult
  refine (ReadsOnly.checkOutput _).bind fun _ => ?_
  refine (ReadsOnly.print _).bind fun _ => ?_
  refine (ReadsOnly.headers _).bind fun headers => ?_
  refine (ReadsOnly.fetch _ _).bind fun data => ?_
  refine (ReadsOnly.orFail _ _).bind fun schema => ?_
  exact (ReadsOnly.printIf _ _).bind fun _ => .pure _

theorem readsOnly_make (invocation : Invocation) : ReadsOnly (make invocation) := by
  cases invocation with
  | generate options => exact readsOnly_makeModule options
  | fetch options => exact readsOnly_makeResult options

end GraphqlRequests.Command
