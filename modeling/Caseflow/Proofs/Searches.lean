import Caseflow.Proofs.Hooks
/-! The search for an available action. Every candidate is judged at a step, the answer is kept by
the identity of the candidate, and a candidate whose identity has been met before gets the earlier
answer. A search from scratch has met refusals only, so whatever it finds was judged on the
spot. -/
namespace Caseflow

open Run

/-- An action with the number of the step it is judged for. -/
abbrev Candidate := ScopedAction × StepDefId

theorem ok_of_toOption {α : Type} {result : Except Failure α} {value : α}
    (answered : result.toOption = some value) : result = .ok value := by
  cases result with
  | ok given => exact congrArg Except.ok (Option.some.inj answered)
  | error failure => cases answered

namespace Availability

theorem find?_learn {known : Availability} {key : ActionKey} (unknown : known.find? key = none)
    (available : Bool) (other : ActionKey) :
    (known.learn key available).find? other =
      if other = key then some available else known.find? other := by
  simp only [find?, learn, List.find?_append, List.find?_singleton] at unknown ⊢
  by_cases same : other = key
  · subst same
    have missing : known.answers.find? (·.1 = other) = none := by simpa using unknown
    simp [missing]
  · have apart : ¬ key = other := fun equal => same equal.symm
    simp [same, apart]

end Availability

namespace Turn

/-- The turn differs from the one at the start by notes on calls and by what is known about actions
only. -/
structure Surveyed (start turn : Turn) : Prop where
  scope : turn.scope = start.scope
  home : turn.home = start.home
  world : ∃ calls, (∀ event ∈ calls, Event.isCall event = true) ∧
    turn.world = start.world.note calls

theorem Surveyed.refl (turn : Turn) : Surveyed turn turn where
  scope := rfl
  home := rfl
  world := ⟨[], by simp, by simp [World.note]⟩

theorem Surveyed.noted {start turn : Turn} (surveyed : Surveyed start turn) {calls : List Event}
    (areCalls : ∀ event ∈ calls, Event.isCall event = true) (known : Availability) :
    Surveyed start { turn with world := turn.world.note calls, known } where
  scope := surveyed.scope
  home := surveyed.home
  world := by
    obtain ⟨earlier, areEarlier, reached⟩ := surveyed.world
    refine ⟨earlier ++ calls, fun event member => ?_, by simp [reached, World.note]⟩
    exact (List.mem_append.mp member).elim (areEarlier event) (areCalls event)

theorem Surveyed.store {start turn : Turn} (surveyed : Surveyed start turn) :
    turn.world.store = start.world.store := by
  obtain ⟨calls, -, reached⟩ := surveyed.world
  rw [reached]
  rfl

theorem Surveyed.properties {start turn : Turn} (surveyed : Surveyed start turn) :
    turn.properties = start.properties := by
  rw [Turn.properties, surveyed.store, surveyed.home]
  rfl

/-- What only looks changes neither the scope nor the store. -/
theorem surveyed_looks {start : Turn} {α : Type} {admitted : Failure → Prop}
    {computation : Run World α} (looks : Looks admitted computation) :
    Keeps (Surveyed start) admitted (onWorld computation) := by
  obtain ⟨answer, calls, areCalls, allowed, reached⟩ := looks
  refine meets_within fun turn surveyed => ?_
  rintro _ rfl
  have after := surveyed.noted areCalls turn.known
  rw [reached]
  cases answer with
  | ok value => exact after
  | error failure => exact ⟨after, allowed failure rfl⟩

end Turn

namespace Toolkit

/-- The answer of a fresh evaluation of an action at a step, which is the same in every world. -/
def judgement (kit : Toolkit) (scope : Scope) (properties : Values) (candidate : ScopedAction)
    (stepId : StepDefId) : Except Failure Bool :=
  (kit.mayFire { scope with actionId := some candidate.id } properties stepId candidate.action
    default).1

variable {kit : Toolkit} {admitted : ExtensionKind → Failure → Prop}

section Surveys

variable {turn : Turn} (refuses : kit.extensions.Refuses admitted)

include refuses

theorem passesNow_surveys (tree : Option Conditions) (stepId : StepDefId) :
    Keeps (Turn.Surveyed turn) (admitted .condition) (kit.passesNow tree stepId) :=
  keeps_bind keeps_read fun _ => Turn.surveyed_looks (treePasses_looks refuses tree)

theorem isAvailable_surveys (candidate : ScopedAction) (stepId : StepDefId) :
    Keeps (Turn.Surveyed turn) (admitted .condition) (kit.isAvailable candidate stepId) := by
  unfold isAvailable
  refine keeps_bind keeps_read fun now => ?_
  split
  · exact keeps_pure _
  · refine keeps_bind (Turn.surveyed_looks (mayFire_looks refuses _)) fun available => ?_
    refine keeps_bind (keeps_change fun now surveyed => ?_) fun _ => keeps_pure _
    exact ⟨surveyed.scope, surveyed.home, surveyed.world⟩

theorem runValidators_surveys (calls : List Call) :
    Keeps (Turn.Surveyed turn) (admitted .validator) (kit.runValidators calls) := by
  unfold runValidators
  refine keeps_each fun call _ => keeps_bind keeps_read fun _ => ?_
  exact Turn.surveyed_looks (callValidator_looks refuses _ _)

end Surveys

theorem mayFire_judgement (refuses : kit.extensions.Refuses admitted) (scope : Scope)
    (properties : Values) (candidate : ScopedAction) (stepId : StepDefId) :
    ∃ calls, (∀ event ∈ calls, Event.isCall event = true) ∧
      (∀ failure, kit.judgement scope properties candidate stepId = .error failure →
        admitted .condition failure) ∧
      ∀ world, kit.mayFire { scope with actionId := some candidate.id } properties stepId
        candidate.action world =
          (kit.judgement scope properties candidate stepId, world.note calls) := by
  obtain ⟨answer, calls, areCalls, allowed, reached⟩ :=
    (mayFire_looks refuses candidate.action : Looks (admitted .condition)
      (kit.mayFire { scope with actionId := some candidate.id } properties stepId candidate.action))
  have judged : kit.judgement scope properties candidate stepId = answer := by
    rw [judgement, reached]
  exact ⟨calls, areCalls, judged ▸ allowed, fun world => by rw [judged, reached]⟩

/-- Just the candidates met so far are known, each to be refused, as the first of its identity was
judged. -/
structure Denied (kit : Toolkit) (scope : Scope) (properties : Values) (met : List Candidate)
    (known : Availability) : Prop where
  known : ∀ key, known.find? key = (met.find? (·.1.key = key)).map fun _ => false
  judged : ∀ key candidate stepId, met.find? (·.1.key = key) = some (candidate, stepId) →
    kit.judgement scope properties candidate stepId = .ok false

/-- A search from `start` has met these candidates, all in vain. -/
structure Searching (kit : Toolkit) (start : Turn) (met : List Candidate) (turn : Turn) : Prop where
  surveyed : Turn.Surveyed start turn
  denied : Denied kit start.scope start.properties met turn.known

/-- After these candidates were refused, one of a new identity was judged to be available. -/
structure Granted (kit : Toolkit) (scope : Scope) (properties : Values) (met : List Candidate)
    (chosen : ScopedAction) (stepId : StepDefId) (known : Availability) : Prop where
  judged : kit.judgement scope properties chosen stepId = .ok true
  new : met.find? (·.1.key = chosen.key) = none
  known : ∀ key, known.find? key =
    if key = chosen.key then some true else (met.find? (·.1.key = key)).map fun _ => false

/-- A search from `start` ends at the chosen candidate. -/
structure Ended (kit : Toolkit) (start : Turn) (met : List Candidate) (chosen : ScopedAction)
    (stepId : StepDefId) (turn : Turn) : Prop where
  surveyed : Turn.Surveyed start turn
  granted : Granted kit start.scope start.properties met chosen stepId turn.known

theorem denied_nil (scope : Scope) (properties : Values) : Denied kit scope properties [] {} where
  known _ := rfl
  judged := by simp

/-- A candidate of an identity that was met is not the first of it. -/
theorem find?_again {met : List Candidate} {candidate : ScopedAction} (stepId : StepDefId)
    (old : (met.find? (·.1.key = candidate.key)).isSome) (key : ActionKey) :
    (met ++ [(candidate, stepId)]).find? (·.1.key = key) = met.find? (·.1.key = key) := by
  rw [List.find?_append, List.find?_singleton]
  by_cases same : candidate.key = key
  · subst same
    obtain ⟨first, found⟩ := Option.isSome_iff_exists.mp old
    rw [found]
    rfl
  · simp [same]

/-- A candidate of a new identity is the first of it. -/
theorem find?_new {met : List Candidate} {candidate : ScopedAction} (stepId : StepDefId)
    (new : met.find? (·.1.key = candidate.key) = none) (key : ActionKey) :
    (met ++ [(candidate, stepId)]).find? (·.1.key = key) =
      if key = candidate.key then some (candidate, stepId) else met.find? (·.1.key = key) := by
  rw [List.find?_append, List.find?_singleton]
  by_cases same : key = candidate.key
  · subst same
    simp [new]
  · have apart : ¬ candidate.key = key := fun equal => same equal.symm
    simp [same, apart]

namespace Denied

variable {scope : Scope} {properties : Values} {met : List Candidate} {known : Availability}
  {candidate : ScopedAction} {stepId : StepDefId}

/-- An identity of which nothing is known has not been met. -/
theorem new (denied : Denied kit scope properties met known)
    (unknown : known.find? candidate.key = none) : met.find? (·.1.key = candidate.key) = none :=
  Option.map_eq_none_iff.mp ((denied.known candidate.key).symm.trans unknown)

/-- Meeting an identity again tells nothing new: it stays refused. -/
theorem repeated (denied : Denied kit scope properties met known)
    (old : (met.find? (·.1.key = candidate.key)).isSome) (stepId : StepDefId) :
    Denied kit scope properties (met ++ [(candidate, stepId)]) known where
  known key := by
    rw [find?_again stepId old]
    exact denied.known key
  judged key := by
    rw [find?_again stepId old]
    exact denied.judged key

/-- A new identity that is judged to be refused joins those that are. -/
theorem refused (denied : Denied kit scope properties met known)
    (unknown : known.find? candidate.key = none)
    (judged : kit.judgement scope properties candidate stepId = .ok false) :
    Denied kit scope properties (met ++ [(candidate, stepId)]) (known.learn candidate.key false) where
  known key := by
    rw [Availability.find?_learn unknown, denied.known, find?_new stepId (denied.new unknown)]
    split <;> rfl
  judged key other step isFirst := by
    rw [find?_new stepId (denied.new unknown)] at isFirst
    split at isFirst
    · cases isFirst
      exact judged
    · exact denied.judged key other step isFirst

/-- A new identity that is judged to be available is granted. -/
theorem granted (denied : Denied kit scope properties met known)
    (unknown : known.find? candidate.key = none)
    (judged : kit.judgement scope properties candidate stepId = .ok true) :
    Granted kit scope properties met candidate stepId (known.learn candidate.key true) where
  judged := judged
  new := denied.new unknown
  known key := by
    rw [Availability.find?_learn unknown, denied.known]

end Denied

theorem isAvailable_of_known {turn : Turn} {candidate : ScopedAction} {available : Bool}
    (looked : turn.known.find? candidate.key = some available) (stepId : StepDefId) :
    kit.isAvailable candidate stepId turn = (.ok available, turn) := by
  simp [isAvailable, andThen, Run.read, looked, Run.done]

theorem isAvailable_of_unknown (refuses : kit.extensions.Refuses admitted) {turn : Turn}
    {candidate : ScopedAction} (looked : turn.known.find? candidate.key = none)
    (stepId : StepDefId) :
    ∃ calls, (∀ event ∈ calls, Event.isCall event = true) ∧
      match kit.judgement turn.scope turn.properties candidate stepId with
      | .ok available =>
        kit.isAvailable candidate stepId turn = (.ok available,
          { turn with
            world := turn.world.note calls
            known := turn.known.learn candidate.key available })
      | .error failure =>
        admitted .condition failure ∧ kit.isAvailable candidate stepId turn =
          (.error failure, { turn with world := turn.world.note calls }) := by
  obtain ⟨calls, areCalls, allowed, fires⟩ :=
    mayFire_judgement refuses turn.scope turn.properties candidate stepId
  refine ⟨calls, areCalls, ?_⟩
  cases judged : kit.judgement turn.scope turn.properties candidate stepId with
  | ok available =>
    simp [isAvailable, andThen, Run.read, looked, Turn.onWorld, within, fires, judged, change,
      Run.done]
  | error failure =>
    refine ⟨allowed failure judged, ?_⟩
    simp [isAvailable, andThen, Run.read, looked, Turn.onWorld, within, fires, judged]

section Search

variable (refuses : kit.extensions.Refuses admitted) (start : Turn)

include refuses

theorem isAvailable_meets (met : List Candidate) (candidate : ScopedAction) (stepId : StepDefId) :
    Meets (Searching kit start met) (kit.isAvailable candidate stepId)
      (fun available turn =>
        if available then Ended kit start met candidate stepId turn
        else Searching kit start (met ++ [(candidate, stepId)]) turn)
      (fun failure turn => Turn.Surveyed start turn ∧ admitted .condition failure ∧
        kit.judgement start.scope start.properties candidate stepId = .error failure) := by
  intro turn searching
  have denied := searching.denied
  cases looked : turn.known.find? candidate.key with
  | some available =>
    -- the identity has been met, so the answer is a refusal that is known already
    obtain ⟨first, found, rfl⟩ :=
      Option.map_eq_some_iff.mp ((denied.known candidate.key).symm.trans looked)
    rw [isAvailable_of_known looked]
    exact ⟨searching.surveyed, denied.repeated (by rw [found]; rfl) stepId⟩
  | none =>
    have same : kit.judgement turn.scope turn.properties candidate stepId =
        kit.judgement start.scope start.properties candidate stepId := by
      rw [searching.surveyed.scope, searching.surveyed.properties]
    obtain ⟨calls, areCalls, answer⟩ := isAvailable_of_unknown refuses looked stepId
    have surveyed := searching.surveyed.noted areCalls
    rw [same] at answer
    cases judged : kit.judgement start.scope start.properties candidate stepId with
    | error failure =>
      rw [judged] at answer
      rw [answer.2]
      exact ⟨surveyed turn.known, answer.1, rfl⟩
    | ok available =>
      rw [judged] at answer
      simp only at answer
      rw [answer]
      cases available with
      | true => exact ⟨surveyed _, denied.granted looked judged⟩
      | false => exact ⟨surveyed _, denied.refused looked judged⟩

/-- A search that finds nothing has refused all candidates; what it finds was judged available. It
fails only where the judgement of a candidate does. -/
theorem firstAvailable_meets (met candidates : List Candidate) :
    Meets (Searching kit start met) (kit.firstAvailable candidates)
      (fun found turn => match found with
        | none => Searching kit start (met ++ candidates) turn
        | some chosen => ∃ before stepId after,
          met ++ candidates = before ++ (chosen, stepId) :: after ∧
            Ended kit start before chosen stepId turn)
      (fun failure turn => Turn.Surveyed start turn ∧ admitted .condition failure ∧
        ∃ candidate ∈ candidates,
          kit.judgement start.scope start.properties candidate.1 candidate.2 = .error failure) := by
  induction candidates generalizing met with
  | nil => exact meets_done fun turn searching => by simpa using searching
  | cons candidate rest ih =>
    unfold firstAvailable
    refine meets_andThen (meets_failures (isAvailable_meets refuses start met _ _) ?_)
      fun available => ?_
    · exact fun _ _ ends => ⟨ends.1, ends.2.1, candidate, List.mem_cons_self .., ends.2.2⟩
    cases available with
    | true => exact meets_done fun turn ended => ⟨met, candidate.2, rest, rfl, ended⟩
    | false =>
      have later := ih (met ++ [candidate])
      rw [List.append_assoc] at later
      refine meets_failures later fun _ _ ends => ⟨ends.1, ends.2.1, ?_⟩
      obtain ⟨other, member, judged⟩ := ends.2.2
      exact ⟨other, List.mem_cons_of_mem _ member, judged⟩

end Search

/-- A search that goes over candidates which are all refused finds nothing, in any world. -/
theorem firstAvailable_of_denied (refuses : kit.extensions.Refuses admitted) {scope : Scope}
    {properties : Values} {met candidates : List Candidate} {last : Availability} {turn : Turn}
    (shown : turn.scope = scope) (held : turn.properties = properties)
    (sofar : Denied kit scope properties met turn.known)
    (denied : Denied kit scope properties (met ++ candidates) last) :
    (kit.firstAvailable candidates turn).1 = .ok none := by
  induction candidates generalizing met turn with
  | nil => rfl
  | cons candidate rest ih =>
    obtain ⟨action, stepId⟩ := candidate
    have appended : met ++ (action, stepId) :: rest = met ++ [(action, stepId)] ++ rest := by simp
    rw [appended] at denied
    unfold firstAvailable
    cases looked : turn.known.find? action.key with
    | some available =>
      obtain ⟨first, found, rfl⟩ :=
        Option.map_eq_some_iff.mp ((sofar.known action.key).symm.trans looked)
      rw [andThen_ok (isAvailable_of_known looked stepId)]
      exact ih shown held (sofar.repeated (by rw [found]; rfl) stepId) denied
    | none =>
      have isFirst : (met ++ [(action, stepId)] ++ rest).find? (·.1.key = action.key) =
          some (action, stepId) := by
        rw [List.find?_append, find?_new stepId (sofar.new looked), if_pos rfl]
        rfl
      have judged := denied.judged action.key action stepId isFirst
      obtain ⟨calls, -, answer⟩ := isAvailable_of_unknown refuses looked stepId
      rw [shown, held, judged] at answer
      rw [andThen_ok answer]
      exact ih rfl held (sofar.refused looked judged) denied

end Toolkit

end Caseflow
