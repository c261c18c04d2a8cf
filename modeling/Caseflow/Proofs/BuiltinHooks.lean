import Caseflow.Proofs.Hooks
/-! The built-in extensions are modest: their functions only set variables and properties or read
the history, and every refusal of theirs is about the set-up, the inputs or the store. None of them
is one of the refusals that leave the caller's work standing. -/
namespace Caseflow

namespace Extensions

variable {admitted : ExtensionKind → Failure → Prop} {extensions : Extensions}

/-- A registry goes on yielding fit things when a fit one is added. -/
theorem yields_insert {α : Type} {refused : Failure → Prop} {fit : α → Prop}
    {makers : SortedMap String (Args → Except Failure α)} {kind : ExtensionKind} {added : α}
    (yields : Yields refused fit (make makers kind)) (name : String) (good : fit added) :
    Yields refused fit (make (makers.insert name fun _ => .ok added) kind) := by
  intro type args
  by_cases same : type = name
  · simpa [make, same] using good
  · simpa [make, SortedMap.get?_insert_of_ne _ same] using yields type args

/-- Without extensions there is nothing to be found. -/
theorem modest_empty (missing : ∀ kind type, admitted kind (.extensionNotFound kind type)) :
    ({} : Extensions).Modest admitted where
  guards type _ := missing .condition type
  validators type _ := missing .validator type
  registers type _ := missing .register type
  functions type _ := missing .function type

theorem Modest.addGuard (modest : extensions.Modest admitted) (name : String) {added : Guard}
    (refusals : ∀ scope given properties failure, added scope given properties = .error failure →
      admitted .condition failure) : (extensions.addGuard name added).Modest admitted :=
  { modest with guards := yields_insert modest.guards name refusals }

theorem Modest.addValidator (modest : extensions.Modest admitted) (name : String)
    {added : Validator}
    (refusals : ∀ scope given properties failure, added scope given properties = .error failure →
      admitted .validator failure) : (extensions.addValidator name added).Modest admitted :=
  { modest with validators := yields_insert modest.validators name refusals }

theorem Modest.addRegister (modest : extensions.Modest admitted) (name : String) {added : Register}
    (refusals : ∀ caller entry given properties failure,
      added caller entry given properties = .error failure → admitted .register failure) :
    (extensions.addRegister name added).Modest admitted :=
  { modest with registers := yields_insert modest.registers name refusals }

theorem Modest.addFunction (modest : extensions.Modest admitted) (name : String) {added : Function}
    (programs : ∀ given, (added given).Modest (admitted .function)) :
    (extensions.addFunction name added).Modest admitted :=
  { modest with functions := yields_insert modest.functions name programs }

end Extensions

namespace Builtin

/-- What the built-in extensions refuse with. -/
inductive Refusal : ExtensionKind → Failure → Prop where
  | unknown (kind : ExtensionKind) (type : String) : Refusal kind (.extensionNotFound kind type)
  | argument (kind : ExtensionKind) (type name : String) :
      Refusal kind (.configuration (.missingArgument type name))
  | step (kind : ExtensionKind) (type text : String) :
      Refusal kind (.configuration (.stepIdNotANumber type text))
  | input (text : String) (fields : SortedMap String String) :
      Refusal .validator (.invalidInput text fields)
  | store (error : StoreError) : Refusal .function (.store error)

/-- No refusal of an extension leaves the caller's work standing. -/
theorem Refusal.requiresRollback {kind : ExtensionKind} {failure : Failure}
    (refusal : Refusal kind failure) : failure.requiresRollback = true := by
  cases refusal <;> rfl

private theorem requiredArg_refusal {type name : String} {args : Args} {failure : Failure}
    (kind : ExtensionKind) (failed : requiredArg type name args = .error failure) :
    Refusal kind failure := by
  unfold requiredArg at failed
  split at failed
  · split at failed
    · cases failed
      exact .argument kind type name
    · cases failed
  · cases failed
    exact .argument kind type name

private theorem stepIdArg_refusal {type : String} {args : Args} {failure : Failure}
    (kind : ExtensionKind) (failed : stepIdArg type args = .error failure) :
    Refusal kind failure := by
  simp only [stepIdArg] at failed
  split at failed
  · cases failed
  · split at failed
    · cases failed
    · cases failed
      exact .step kind type _

/-- A computation fails in its first part or, after an answer of it, in its second. -/
private theorem error_bind {α β : Type} {first : Except Failure α} {next : α → Except Failure β}
    {failure : Failure} (failed : (first >>= next) = .error failure) :
    first = .error failure ∨ ∃ value, first = .ok value ∧ next value = .error failure := by
  cases first with
  | error other => exact .inl (by cases failed; rfl)
  | ok value => exact .inr ⟨value, rfl, failed⟩

variable {scope : Scope} {args : Args} {properties : Values} {failure : Failure}

private theorem status_refusal (failed : status scope args properties = .error failure) :
    Refusal .condition failure := by
  unfold status at failed
  rcases error_bind failed with refused | ⟨_, _, rest⟩
  · exact requiredArg_refusal _ refused
  · rcases error_bind rest with refused | ⟨_, _, answered⟩
    · exact stepIdArg_refusal _ refused
    · cases answered

private theorem caller_refusal (failed : caller scope args properties = .error failure) :
    Refusal .condition failure := by
  unfold caller at failed
  rcases error_bind failed with refused | ⟨_, _, answered⟩
  · exact requiredArg_refusal _ refused
  · cases answered

private theorem allowOwnerOnly_refusal
    (failed : allowOwnerOnly scope args properties = .error failure) :
    Refusal .condition failure := by
  unfold allowOwnerOnly at failed
  split at failed
  · cases failed
  · rcases error_bind failed with refused | ⟨_, _, answered⟩
    · exact stepIdArg_refusal _ refused
    · cases answered

private theorem joinStatus_refusal (failed : joinStatus scope args properties = .error failure) :
    Refusal .condition failure := by
  unfold joinStatus at failed
  rcases error_bind failed with refused | ⟨_, _, rest⟩
  · exact requiredArg_refusal _ refused
  · rcases error_bind rest with refused | ⟨_, _, answered⟩
    · exact stepIdArg_refusal _ refused
    · split at answered
      · cases answered
      · split at answered <;> cases answered

private theorem input_refusal (failed : input scope args properties = .error failure) :
    Refusal .condition failure := by
  unfold input at failed
  rcases error_bind failed with refused | ⟨_, _, answered⟩
  · exact requiredArg_refusal _ refused
  · cases answered

private theorem requiredInputs_refusal
    (failed : requiredInputs scope args properties = .error failure) :
    Refusal .validator failure := by
  unfold requiredInputs at failed
  rcases error_bind failed with refused | ⟨_, _, answered⟩
  · exact requiredArg_refusal _ refused
  · simp only at answered
    split at answered
    · cases answered
    · cases answered
      exact .input _ _

private theorem property_refusal {asking : Option String} {entry : Entry}
    (failed : property asking entry args properties = .error failure) :
    Refusal .register failure := by
  unfold property at failed
  rcases error_bind failed with refused | ⟨_, _, answered⟩
  · exact requiredArg_refusal _ refused
  · cases answered

private theorem setCaller_modest (given : Args) : (setCaller given).Modest (Refusal .function) :=
  .look fun _ _ => .assign .done

private theorem setProperty_modest (given : Args) :
    (setProperty given).Modest (Refusal .function) := by
  unfold setProperty
  split
  · rename_i refused
    exact .fail (requiredArg_refusal _ refused)
  · exact .putProperty .done

private theorem mostRecentOwner_modest (given : Args) :
    (mostRecentOwner given).Modest (Refusal .function) := by
  unfold mostRecentOwner
  split
  · rename_i refused
    exact .fail (stepIdArg_refusal _ refused)
  · refine .look fun scope _ => .history fun answer => ?_
    cases answer with
    | error error => exact .fail (.store error)
    | ok history =>
      simp only
      split
      · exact .assign .done
      · exact .done

/-- The built-in extensions are modest. -/
theorem extensions_modest : extensions.Modest Refusal :=
  (Extensions.modest_empty Refusal.unknown)
    |>.addGuard "always" (fun _ _ _ _ failed => by cases failed)
    |>.addGuard "never" (fun _ _ _ _ failed => by cases failed)
    |>.addGuard "status" (fun _ _ _ _ => status_refusal)
    |>.addGuard "caller" (fun _ _ _ _ => caller_refusal)
    |>.addGuard "allow-owner-only" (fun _ _ _ _ => allowOwnerOnly_refusal)
    |>.addGuard "join-status" (fun _ _ _ _ => joinStatus_refusal)
    |>.addGuard "input" (fun _ _ _ _ => input_refusal)
    |>.addFunction "set-caller" setCaller_modest
    |>.addFunction "set-property" setProperty_modest
    |>.addFunction "most-recent-owner" mostRecentOwner_modest
    |>.addValidator "required-inputs" (fun _ _ _ _ => requiredInputs_refusal)
    |>.addRegister "property" (fun _ _ _ _ _ => property_refusal)

/-! ### Refusals for the store -/

section Explained

open Run

variable {start : World} {kept : Turn → Prop}

/-- Only functions put requests to the store. -/
theorem Refusal.explains {kind : ExtensionKind} {failure : Failure}
    (refusal : Refusal kind failure) (looks : kind ≠ .function) : start.Explains failure := by
  intro error same
  subst same
  cases refusal
  exact absurd rfl looks

/-- The programs of the function keep the property, and fail for the store only in an outage. -/
private structure Explained (start : World) (kept : Turn → Prop) (function : Function) : Prop where
  keeps : ∀ given, Keeps kept start.Explains (Turn.perform (function given))

variable (stable : Turn.Stable kept) (proceeds : ∀ turn, kept turn → start.Proceeds turn.world)

include stable in
private theorem setCaller_explained : Explained start kept setCaller :=
  ⟨fun _ => Turn.perform_keeps stable (.look fun _ _ => .assign .done)⟩

include stable in
private theorem setProperty_explained : Explained start kept setProperty := by
  refine ⟨fun given => ?_⟩
  refine Turn.perform_keeps stable ?_
  unfold setProperty
  split
  · rename_i refused
    exact .fail ((requiredArg_refusal .condition refused).explains nofun)
  · exact .putProperty .done

include stable proceeds

private theorem mostRecentOwner_explained : Explained start kept mostRecentOwner := by
  refine ⟨fun given => ?_⟩
  unfold mostRecentOwner
  split
  · rename_i refused
    exact keeps_fail ((stepIdArg_refusal .condition refused).explains nofun)
  · refine keeps_andThen keeps_read fun asking => ?_
    have answers : Meets kept (Turn.answerOf (.historySteps asking.scope.entry.id))
        (fun answer turn => kept turn ∧ ∀ error, answer = .error error →
          start.Explains (.store error))
        (fun failure turn => kept turn ∧ start.Explains failure) := by
      refine Turn.meets_answerOf fun turn answer after holds served => ?_
      refine ⟨stable (Turn.hooked_history turn served) holds, fun error refused => ?_⟩
      subst refused
      exact (proceeds turn holds).explains (by trivial) served
    refine meets_andThen answers fun answer => ?_
    cases answer with
    | error error => exact meets_fail fun _ ends => ⟨ends.1, ends.2 error rfl⟩
    | ok history =>
      simp only
      split
      · refine meets_andThen (meets_change fun turn ends => ?_) fun _ => keeps_done ()
        exact stable (Turn.hooked_assign turn _ _) ends.1
      · exact meets_done fun _ ends => ends.1

private theorem functions_explained :
    Extensions.Yields start.Explains (Explained start kept) extensions.function := by
  have none : Extensions.Yields start.Explains (Explained start kept)
      (Extensions.make ∅ .function) := by
    intro type args error same
    cases same
  exact Extensions.yields_insert (Extensions.yields_insert (Extensions.yields_insert none
    "set-caller" (setCaller_explained stable)) "set-property" (setProperty_explained stable))
    "most-recent-owner" (mostRecentOwner_explained stable proceeds)

/-- The built-in extensions fail for the store only where an outage keeps it from answering. -/
theorem hosts_explained {kit : Toolkit} (standard : kit.extensions = extensions) :
    kit.Hosts start.Explains kept := by
  have refuses : kit.extensions.Refuses Refusal := standard ▸ extensions_modest.toRefuses
  have functions := (functions_explained stable proceeds).mono fun _ explained => explained.keeps
  constructor
  · intro calls
    exact Toolkit.runFunctions_keeps stable (standard ▸ functions) calls
  · intro calls
    exact keeps_mono (Toolkit.runValidators_keeps stable refuses calls)
      fun _ was => was.explains nofun
  · intro tree stepId
    exact keeps_mono (Toolkit.passesNow_keeps stable refuses tree stepId)
      fun _ was => was.explains nofun
  · intro candidate stepId
    exact keeps_mono (Toolkit.isAvailable_keeps stable refuses candidate stepId)
      fun _ was => was.explains nofun

end Explained

end Builtin

end Caseflow
