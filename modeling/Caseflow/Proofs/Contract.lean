import Caseflow.Run
/-! Contracts of computations. A contract says what holds where a computation ends, of its answer or
of its failure, whenever it starts where the premise holds. Failures keep the changes made before
them, so a contract speaks about the state in both cases. -/
namespace Caseflow.Run

variable {σ τ α β : Type} {before : σ → Prop}

/-- Started where `before` holds, the computation ends where `answered` holds of its answer, or
where `failed` holds of its failure. -/
def Meets (before : σ → Prop) (computation : Run σ α) (answered : α → σ → Prop)
    (failed : Failure → σ → Prop) : Prop :=
  ∀ state, before state →
    match computation state with
    | (.ok value, after) => answered value after
    | (.error failure, after) => failed failure after

/-- The computation keeps a property of the state, and fails in admitted ways only. -/
def Keeps (kept : σ → Prop) (admitted : Failure → Prop) (computation : Run σ α) : Prop :=
  Meets kept computation (fun _ => kept) fun failure state => kept state ∧ admitted failure

section Rules

variable {answered : α → σ → Prop} {failed : Failure → σ → Prop}

theorem meets_mono {stronger : σ → Prop} {weaker : α → σ → Prop} {worse : Failure → σ → Prop}
    {computation : Run σ α} (meets : Meets before computation answered failed)
    (premise : ∀ state, stronger state → before state)
    (answers : ∀ value state, answered value state → weaker value state)
    (failures : ∀ failure state, failed failure state → worse failure state) :
    Meets stronger computation weaker worse := by
  intro state holds
  have ends := meets state (premise state holds)
  revert ends
  split
  · exact answers _ _
  · exact failures _ _

theorem meets_answers {weaker : α → σ → Prop} {computation : Run σ α}
    (meets : Meets before computation answered failed)
    (answers : ∀ value state, answered value state → weaker value state) :
    Meets before computation weaker failed :=
  meets_mono meets (fun _ holds => holds) answers fun _ _ ends => ends

theorem meets_failures {worse : Failure → σ → Prop} {computation : Run σ α}
    (meets : Meets before computation answered failed)
    (failures : ∀ failure state, failed failure state → worse failure state) :
    Meets before computation answered worse :=
  meets_mono meets (fun _ holds => holds) (fun _ _ ends => ends) failures

/-- A contract may be used at a state that its premise holds of. -/
theorem meets_at {start : σ} {computation : Run σ α}
    (meets : Meets before computation answered failed) (holds : before start) :
    Meets (· = start) computation answered failed :=
  meets_mono meets (fun _ same => same ▸ holds) (fun _ _ ends => ends) fun _ _ ends => ends

/-- Two contracts of one computation hold together. -/
theorem meets_both {also : α → σ → Prop} {alsoFailed : Failure → σ → Prop} {computation : Run σ α}
    (left : Meets before computation answered failed)
    (right : Meets before computation also alsoFailed) :
    Meets before computation (fun value state => answered value state ∧ also value state)
      (fun failure state => failed failure state ∧ alsoFailed failure state) := by
  intro state holds
  have ends := left state holds
  have alsoEnds := right state holds
  split at ends
  · rename_i reached
    rw [reached] at alsoEnds
    exact ⟨ends, alsoEnds⟩
  · rename_i reached
    rw [reached] at alsoEnds
    exact ⟨ends, alsoEnds⟩

/-- A contract may name the state a computation starts in. -/
theorem meets_from {computation : Run σ α}
    (meets : ∀ start, before start → Meets (· = start) computation answered failed) :
    Meets before computation answered failed :=
  fun state holds => meets state holds state rfl

/-- A part of the premise that does not speak about the state may be used right away. -/
theorem meets_given {fact : Prop} {computation : Run σ α}
    (meets : fact → Meets before computation answered failed) :
    Meets (fun state => fact ∧ before state) computation answered failed :=
  fun state holds => meets holds.1 state holds.2

/-- What holds for some value may be named by it. -/
theorem meets_some {γ : Type} {before : γ → σ → Prop} {computation : Run σ α}
    (meets : ∀ value, Meets (before value) computation answered failed) :
    Meets (fun state => ∃ value, before value state) computation answered failed :=
  fun state ⟨value, holds⟩ => meets value state holds

theorem meets_done {value : α} (holds : ∀ state, before state → answered value state) :
    Meets before (done value) answered failed :=
  holds

theorem meets_fail {failure : Failure} (holds : ∀ state, before state → failed failure state) :
    Meets before (fail failure : Run σ α) answered failed :=
  holds

theorem meets_read {answered : σ → σ → Prop}
    (holds : ∀ state, before state → answered state state) : Meets before read answered failed :=
  holds

theorem meets_change {answered : Unit → σ → Prop} {update : σ → σ}
    (holds : ∀ state, before state → answered () (update state)) :
    Meets before (change update) answered failed :=
  holds

theorem meets_ofOption {failure : Failure} {found : Option α}
    (answers : ∀ value, found = some value → ∀ state, before state → answered value state)
    (failures : found = none → ∀ state, before state → failed failure state) :
    Meets before (ofOption failure found) answered failed := by
  intro state holds
  cases found with
  | some value => exact answers value rfl state holds
  | none => exact failures rfl state holds

theorem meets_andThen {middle : α → σ → Prop} {answered : β → σ → Prop} {first : Run σ α}
    {next : α → Run σ β} (start : Meets before first middle failed)
    (rest : ∀ value, Meets (middle value) (next value) answered failed) :
    Meets before (andThen first next) answered failed := by
  intro state holds
  have ends := start state holds
  cases reached : first state with
  | mk result after =>
    rw [reached] at ends
    cases result with
    | ok value =>
      rw [andThen_ok reached]
      exact rest value after ends
    | error failure =>
      rw [andThen_error reached]
      exact ends

theorem meets_pure {value : α} (holds : ∀ state, before state → answered value state) :
    Meets before (pure value) answered failed :=
  holds

theorem meets_bind {middle : α → σ → Prop} {answered : β → σ → Prop} {first : Run σ α}
    {next : α → Run σ β} (start : Meets before first middle failed)
    (rest : ∀ value, Meets (middle value) (next value) answered failed) :
    Meets before (first >>= next) answered failed :=
  meets_andThen start rest

/-- The same rule, where what holds in between has to be told. -/
theorem meets_bind_via (middle : α → σ → Prop) {answered : β → σ → Prop} {first : Run σ α}
    {next : α → Run σ β} (start : Meets before first middle failed)
    (rest : ∀ value, Meets (middle value) (next value) answered failed) :
    Meets before (first >>= next) answered failed :=
  meets_andThen start rest

theorem meets_ofExcept_bind {answered : β → σ → Prop} {result : Except Failure α}
    {next : α → Run σ β}
    (failures : ∀ failure, result = .error failure → ∀ state, before state → failed failure state)
    (rest : ∀ value, result = .ok value → Meets before (next value) answered failed) :
    Meets before (ofExcept result >>= next) answered failed := by
  cases result with
  | ok value => exact rest value rfl
  | error failure => exact meets_fail (failures failure rfl)

theorem done_bind (value : α) (next : α → Run σ β) : (done value >>= next) = next value := rfl

/-- What follows may be counted to the second part. -/
theorem bind_assoc {γ : Type} (first : Run σ α) (next : α → Run σ β) (last : β → Run σ γ) :
    (first >>= next) >>= last = first >>= fun value => next value >>= last := by
  funext state
  simp only [bind_eq, andThen]
  cases first state with
  | mk result after => cases result <;> rfl

/-- Each item is met with what holds after the items before it. -/
theorem meets_each (kept : List α → σ → Prop) {perform : α → Run σ Unit} {items : List α}
    (step : ∀ item rest, Meets (kept (item :: rest)) (perform item) (fun _ => kept rest) failed) :
    Meets (kept items) (each perform items) (fun _ => kept []) failed := by
  induction items with
  | nil => exact meets_done fun _ holds => holds
  | cons item rest ih => exact meets_andThen (step item rest) fun _ => ih

theorem meets_within {part : τ → σ} {replace : τ → σ → τ} {premise : τ → Prop}
    {answered : α → τ → Prop} {failed : Failure → τ → Prop} {computation : Run σ α}
    (meets : ∀ whole, premise whole →
      Meets (· = part whole) computation (fun value after => answered value (replace whole after))
        fun failure after => failed failure (replace whole after)) :
    Meets premise (within part replace computation) answered failed := by
  intro whole holds
  have ends := meets whole holds (part whole) rfl
  unfold within
  split at ends
  · rename_i reached
    rw [reached]
    exact ends
  · rename_i reached
    rw [reached]
    exact ends

/-- What follows a look at the state may use the premise of it. -/
theorem meets_read_bind {answered : β → σ → Prop} {failed : Failure → σ → Prop}
    {next : σ → Run σ β} (rest : ∀ state, before state → Meets before (next state) answered failed) :
    Meets before (read >>= next) answered failed :=
  fun state holds => rest state holds state holds

/-- Where a failure is caught, the fallback is the answer. -/
theorem meets_orElse {fallback : α} {computation : Run σ α} {worse : Failure → σ → Prop}
    (meets : Meets before computation answered fun _ => answered fallback) :
    Meets before (orElse fallback computation) answered worse := by
  intro state holds
  have ends := meets state holds
  cases reached : computation state with
  | mk result after =>
    rw [reached] at ends
    cases result with
    | ok value =>
      simp only [orElse, reached]
      exact ends
    | error failure =>
      simp only [orElse, reached]
      exact ends

/-- What is promised of an answer holds of the one that is reached. -/
theorem Meets.answer {computation : Run σ α}
    (meets : Meets before computation answered failed) {state after : σ} {value : α}
    (holds : before state) (reached : computation state = (.ok value, after)) :
    answered value after := by
  have ends := meets state holds
  rw [reached] at ends
  exact ends

/-- What is promised of a failure holds of the one that is reached. -/
theorem Meets.failure {computation : Run σ α}
    (meets : Meets before computation answered failed) {state after : σ} {failure : Failure}
    (holds : before state) (reached : computation state = (.error failure, after)) :
    failed failure after := by
  have ends := meets state holds
  rw [reached] at ends
  exact ends

/-- What is promised of either end holds where the computation ends. -/
theorem Meets.ends {reached : σ → Prop} {computation : Run σ α}
    (meets : Meets before computation (fun _ => reached) fun _ => reached) {state : σ}
    (holds : before state) : reached (computation state).2 := by
  have ends := meets state holds
  split at ends
  · rename_i answered
    rw [answered]
    exact ends
  · rename_i failed
    rw [failed]
    exact ends

end Rules

section Invariants

variable {kept : σ → Prop} {admitted : Failure → Prop}

theorem keeps_done (value : α) : Keeps kept admitted (done value : Run σ α) :=
  meets_done fun _ holds => holds

theorem keeps_fail {failure : Failure} (allowed : admitted failure) :
    Keeps kept admitted (fail failure : Run σ α) :=
  meets_fail fun _ holds => ⟨holds, allowed⟩

theorem keeps_read : Keeps kept admitted (read : Run σ σ) :=
  meets_read fun _ holds => holds

theorem keeps_change {update : σ → σ} (stays : ∀ state, kept state → kept (update state)) :
    Keeps kept admitted (change update) :=
  meets_change stays

theorem keeps_ofOption {failure : Failure} {found : Option α} (allowed : admitted failure) :
    Keeps kept admitted (ofOption failure found : Run σ α) :=
  meets_ofOption (fun _ _ _ holds => holds) fun _ _ holds => ⟨holds, allowed⟩

theorem keeps_andThen {first : Run σ α} {next : α → Run σ β} (start : Keeps kept admitted first)
    (rest : ∀ value, Keeps kept admitted (next value)) :
    Keeps kept admitted (andThen first next) :=
  meets_andThen start rest

theorem keeps_pure (value : α) : Keeps kept admitted (pure value : Run σ α) :=
  keeps_done value

theorem keeps_bind {first : Run σ α} {next : α → Run σ β} (start : Keeps kept admitted first)
    (rest : ∀ value, Keeps kept admitted (next value)) : Keeps kept admitted (first >>= next) :=
  keeps_andThen start rest

theorem keeps_read_bind {next : σ → Run σ β}
    (rest : ∀ state, kept state → Keeps kept admitted (next state)) :
    Keeps kept admitted (read >>= next) :=
  meets_read_bind rest

/-- A computation may begin with one that keeps its premise. -/
theorem meets_keeps_bind {answered : β → σ → Prop} {failed : Failure → σ → Prop} {first : Run σ α}
    {next : α → Run σ β} (start : Keeps kept admitted first)
    (failures : ∀ failure state, kept state → admitted failure → failed failure state)
    (rest : ∀ value, Meets kept (next value) answered failed) :
    Meets kept (first >>= next) answered failed :=
  meets_bind (meets_failures start fun failure state ends => failures failure state ends.1 ends.2) rest

theorem keeps_ofExcept {result : Except Failure α}
    (allowed : ∀ failure, result = .error failure → admitted failure) :
    Keeps kept admitted (ofExcept result : Run σ α) := by
  cases result with
  | ok value => exact keeps_done value
  | error failure => exact keeps_fail (allowed failure rfl)

theorem keeps_ofExcept_bind {result : Except Failure α} {next : α → Run σ β}
    (allowed : ∀ failure, result = .error failure → admitted failure)
    (rest : ∀ value, result = .ok value → Keeps kept admitted (next value)) :
    Keeps kept admitted (ofExcept result >>= next) :=
  meets_ofExcept_bind (fun failure failed _ holds => ⟨holds, allowed failure failed⟩) rest

theorem keeps_each {perform : α → Run σ Unit} {items : List α}
    (step : ∀ item ∈ items, Keeps kept admitted (perform item)) :
    Keeps kept admitted (each perform items) := by
  induction items with
  | nil => exact keeps_done ()
  | cons item rest ih =>
    exact keeps_andThen (step item (by simp))
      fun _ => ih fun later member => step later (List.mem_cons_of_mem _ member)

/-- Catching a failure keeps what was kept up to it. -/
theorem keeps_orElse {computation : Run σ α} (fallback : α)
    (keeps : Keeps kept admitted computation) : Keeps kept admitted (orElse fallback computation) := by
  intro state holds
  have ends := keeps state holds
  cases reached : computation state with
  | mk result after =>
    rw [reached] at ends
    cases result with
    | ok value =>
      simp only [orElse, reached]
      exact ends
    | error failure =>
      simp only [orElse, reached]
      exact ends.1

/-- What is kept holds where the computation ends, whichever way it ends. -/
theorem Keeps.after {computation : Run σ α} (keeps : Keeps kept admitted computation) {state : σ}
    (holds : kept state) : kept (computation state).2 :=
  (meets_failures keeps fun _ _ ends => ends.1).ends holds

theorem keeps_mono {also : Failure → Prop} {computation : Run σ α}
    (keeps : Keeps kept admitted computation)
    (allowed : ∀ failure, admitted failure → also failure) : Keeps kept also computation :=
  meets_failures keeps fun _ _ ends => ⟨ends.1, allowed _ ends.2⟩

end Invariants

end Caseflow.Run
