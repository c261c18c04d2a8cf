import Caseflow.Proofs.Rejections
/-! The listing of the available actions. It walks through all that an entry offers, judges every
identity once and notes the numbers of those that are available. A call looks its action up by the
number, and of each step it meets the first action of that number only. The two agree on a number as
long as no step offers different actions under it. -/
namespace Caseflow

open Run

namespace Toolkit

variable {kit : Toolkit} {scope : Scope} {properties : Values} {met : List Candidate}
  {candidate : ScopedAction} {stepId : StepDefId} {number : ActionId}

/-- One of the candidates has the number, is the first of its identity, and is judged available. -/
def Admits (kit : Toolkit) (scope : Scope) (properties : Values) (candidates : List Candidate)
    (number : ActionId) : Prop :=
  ∃ candidate stepId,
    candidates.find? (·.1.key = candidate.key) = some (candidate, stepId) ∧
      candidate.id = number ∧ kit.judgement scope properties candidate stepId = .ok true

/-- Meeting an identity again admits nothing new. -/
theorem admits_repeated (old : (met.find? (·.1.key = candidate.key)).isSome) (stepId : StepDefId) :
    kit.Admits scope properties (met ++ [(candidate, stepId)]) number ↔
      kit.Admits scope properties met number := by
  simp only [Admits, find?_again stepId old]

/-- A new identity is admitted as it is judged. -/
theorem admits_new (new : met.find? (·.1.key = candidate.key) = none) :
    kit.Admits scope properties (met ++ [(candidate, stepId)]) number ↔
      kit.Admits scope properties met number ∨
        candidate.id = number ∧ kit.judgement scope properties candidate stepId = .ok true := by
  simp only [Admits, find?_new stepId new]
  constructor
  · rintro ⟨other, step, found, numbered, judged⟩
    split at found
    · cases found
      exact .inr ⟨numbered, judged⟩
    · exact .inl ⟨other, step, found, numbered, judged⟩
  · rintro (⟨other, step, found, numbered, judged⟩ | ⟨numbered, judged⟩)
    · refine ⟨other, step, ?_, numbered, judged⟩
      rw [if_neg, found]
      intro same
      rw [same, new] at found
      cases found
    · exact ⟨candidate, stepId, if_pos rfl, numbered, judged⟩

/-- A walk from `start` has met these candidates: of each identity the judgement of the first one is
known, and these are the numbers admitted so far, each once. -/
structure Walking (kit : Toolkit) (start : Turn) (met : List Candidate) (numbers : List ActionId)
    (turn : Turn) : Prop where
  surveyed : Turn.Surveyed start turn
  known : ∀ key, turn.known.find? key = (met.find? (·.1.key = key)).bind fun first =>
    (kit.judgement start.scope start.properties first.1 first.2).toOption
  decided : kit.Decided start.scope start.properties met
  once : numbers.Nodup
  lists : ∀ number, number ∈ numbers ↔ kit.Admits start.scope start.properties met number

/-- The numbers after one more candidate. -/
def noted (numbers : List ActionId) (number : ActionId) (available : Bool) : List ActionId :=
  if available && !numbers.contains number then numbers ++ [number] else numbers

theorem nodup_noted {numbers : List ActionId} (once : numbers.Nodup) (number : ActionId)
    (available : Bool) : (noted numbers number available).Nodup := by
  unfold noted
  by_cases new : available = true ∧ number ∉ numbers
  · have appends : (available && !numbers.contains number) = true := by simpa using new
    rw [if_pos appends, List.nodup_append]
    refine ⟨once, by simp, fun other member last isLast same => ?_⟩
    obtain rfl := List.mem_singleton.mp isLast
    exact new.2 (same ▸ member)
  · have stays : ¬ (available && !numbers.contains number) = true := by simpa using new
    rw [if_neg stays]
    exact once

theorem mem_noted {numbers : List ActionId} {number other : ActionId} {available : Bool} :
    other ∈ noted numbers number available ↔
      other ∈ numbers ∨ number = other ∧ available = true := by
  unfold noted
  cases available with
  | false => simp
  | true =>
    by_cases old : number ∈ numbers
    · simp only [List.contains_eq_mem, old, decide_true]
      simp only [Bool.not_true, Bool.and_false, Bool.false_eq_true, if_false, and_true]
      exact ⟨.inl, fun either => either.elim id fun same => same ▸ old⟩
    · simp [old, eq_comm]

/-- A walk begins with nothing met and nothing known. -/
theorem walking_begins (kit : Toolkit) (world : World) (scope : Scope) (home : EntryId) :
    Walking kit { world, scope, home } [] [] { world, scope, home } where
  surveyed := .refl _
  known _ := rfl
  decided _ member := nomatch member
  once := .nil
  lists _ := ⟨nofun, fun ⟨_, _, found, _⟩ => nomatch found⟩

/-- What a search finds among the candidates of a number is admitted by them. -/
theorem admits_of_granted {blueprint : Blueprint} {steps : List Step} {known : Availability}
    {before after : List Candidate}
    (split : candidatesFor blueprint steps number = before ++ (candidate, stepId) :: after)
    (granted : Granted kit scope properties before candidate stepId known) :
    kit.Admits scope properties (candidatesFor blueprint steps number) number := by
  have member : (candidate, stepId) ∈ candidatesFor blueprint steps number := by
    rw [split]
    simp
  refine ⟨candidate, stepId, ?_, (candidate_of_candidateFor member).2, granted.judged⟩
  rw [split, List.find?_append, granted.new]
  simp

/-- Where all candidates are refused, they admit nothing. -/
theorem not_admits_of_denied {candidates : List Candidate} {known : Availability}
    (denied : Denied kit scope properties candidates known) :
    ¬ kit.Admits scope properties candidates number := by
  rintro ⟨candidate, stepId, found, -, judged⟩
  cases (denied.judged candidate.key candidate stepId found).symm.trans judged

section Walk

variable {admitted : ExtensionKind → Failure → Prop} (refuses : kit.extensions.Refuses admitted)
  (start : Turn)

include refuses

/-- One more candidate is met. -/
theorem isAvailable_walks {numbers : List ActionId} {verdict : Bool}
    (judged : kit.judgement start.scope start.properties candidate stepId = .ok verdict) :
    Meets (Walking kit start met numbers) (kit.isAvailable candidate stepId)
      (fun available => Walking kit start (met ++ [(candidate, stepId)])
        (noted numbers candidate.id available)) (fun _ _ => False) := by
  intro turn walking
  have decided : kit.Decided start.scope start.properties (met ++ [(candidate, stepId)]) := by
    intro other member
    rcases List.mem_append.mp member with old | new
    · exact walking.decided other old
    · obtain rfl := List.mem_singleton.mp new
      exact ⟨verdict, judged⟩
  cases looked : turn.known.find? candidate.key with
  | some available =>
    obtain ⟨⟨first, step⟩, found, known⟩ :=
      Option.bind_eq_some_iff.mp ((walking.known candidate.key).symm.trans looked)
    have old : (met.find? (·.1.key = candidate.key)).isSome := by rw [found]; rfl
    rw [isAvailable_of_known looked]
    refine ⟨walking.surveyed, fun key => ?_, decided, nodup_noted walking.once _ _, fun other => ?_⟩
    · rw [find?_again stepId old]
      exact walking.known key
    · rw [admits_repeated old, mem_noted, walking.lists, or_iff_left_iff_imp]
      -- an available action of this identity has been noted under the same number
      rintro ⟨rfl, rfl⟩
      have same : first.key = candidate.key := by simpa using List.find?_some found
      refine ⟨first, step, by rw [same]; exact found, congrArg ActionKey.actionId same, ?_⟩
      exact ok_of_toOption known
  | none =>
    have new : met.find? (·.1.key = candidate.key) = none := by
      cases found : met.find? (·.1.key = candidate.key) with
      | none => rfl
      | some first =>
        obtain ⟨verdict, answered⟩ := walking.decided first (List.mem_of_find?_eq_some found)
        have known := walking.known candidate.key
        rw [looked, found, Option.bind_some, answered] at known
        cases known
    have same : kit.judgement turn.scope turn.properties candidate stepId = .ok verdict := by
      rw [walking.surveyed.scope, walking.surveyed.properties, judged]
    obtain ⟨calls, areCalls, answer⟩ := isAvailable_of_unknown refuses looked stepId
    rw [same] at answer
    dsimp only at answer
    rw [answer]
    refine ⟨walking.surveyed.noted areCalls _, fun key => ?_, decided,
      nodup_noted walking.once _ _, fun other => ?_⟩
    · rw [Availability.find?_learn looked, find?_new stepId new]
      split
      · rw [Option.bind_some, judged]
        rfl
      · exact walking.known key
    · rw [admits_new new, mem_noted, walking.lists, judged, Except.ok.injEq]

/-- A walk through candidates that are all judged notes the numbers that are admitted. -/
theorem collectAvailable_walks (numbers : List ActionId) (candidates : List Candidate)
    (decided : kit.Decided start.scope start.properties candidates) :
    Meets (Walking kit start met numbers) (kit.collectAvailable numbers candidates)
      (fun numbers => Walking kit start (met ++ candidates) numbers) (fun _ _ => False) := by
  induction candidates generalizing met numbers with
  | nil => exact meets_done fun _ walking => by simpa using walking
  | cons candidate rest ih =>
    obtain ⟨verdict, judged⟩ := decided candidate (List.mem_cons_self ..)
    unfold collectAvailable
    refine meets_andThen (isAvailable_walks refuses start judged) fun available => ?_
    have later : Meets (Walking kit start (met ++ [candidate]) _) _ _ _ :=
      ih (noted numbers candidate.1.id available)
        fun other member => decided other (List.mem_cons_of_mem _ member)
    rw [List.append_assoc] at later
    exact later

end Walk

/-- What is admitted by all candidates is admitted by those of its number, and the other way round,
as long as no step offers different actions under the number. -/
theorem admits_candidatesFor {blueprint : Blueprint} {steps : List Step}
    (sole : Sole blueprint steps number) :
    kit.Admits scope properties (candidatesFor blueprint steps number) number ↔
      kit.Admits scope properties (candidates blueprint steps) number := by
  unfold Admits
  refine exists_congr fun candidate => exists_congr fun stepId => ?_
  by_cases numbered : candidate.id = number
  · have sought (action : ScopedAction) (same : decide (action.key = candidate.key) = true) :
        action.id = number :=
      (congrArg ActionKey.actionId (of_decide_eq_true same)).trans numbered
    rw [find?_candidatesFor sought sole]
  · simp [numbered]

end Toolkit

/-! ### A store in order -/

theorem Store.answer_properties {store : Store} {id : EntryId} {entry : Entry}
    (found : store.findEntry? id = some entry) (now : Instant) :
    store.answer now (.properties id) = .ok (store.propertiesOf id, store) := by
  obtain ⟨record, held, -⟩ := Option.map_eq_some_iff.mp found
  simp [answer, properties, propertiesOf, held, Except.map]

namespace World

/-- A store that is in order answers what is only looked up. -/
theorem request_answers {start : World}
    (inOrder : ∀ method call, start.outages.verdict method call = none) {request : StoreRequest}
    {value : request.Answer}
    (answers : ∀ now, start.store.answer now request = .ok (value, start.store))
    (silent : request.events value = []) (failed : Failure → World → Prop) :
    Meets (Observed start) (Run.request request)
      (fun answer world => answer = value ∧ Observed start world) failed := by
  intro world observed
  have next : world.outages.next request.method = none := by
    rw [Outages.next, observed.verdict, inOrder]
  have counted : Observed start { world with outages := world.outages.count request.method } :=
    ⟨observed.store, observed.verdict, observed.journal⟩
  have asked : Run.request request world =
      (.ok value, { world with outages := world.outages.count request.method }) := by
    simp [Run.request, ask, next, serve, observed.store, answers, silent, note]
  rw [asked]
  exact ⟨rfl, counted⟩

/-- A look that answers the same in every world has that answer. -/
theorem looks_answers {α : Type} {start : World} {admitted : Failure → Prop}
    {computation : Run World α} {value : α} (looks : Looks admitted computation)
    (answers : ∀ world, (computation world).1 = .ok value) (failed : Failure → World → Prop) :
    Meets (Observed start) computation (fun answer world => answer = value ∧ Observed start world)
      failed := by
  intro world observed
  have ends := looks_observes looks start world observed
  have answered := answers world
  split at ends
  · rename_i reached
    rw [reached] at answered
    exact ⟨Except.ok.inj answered, ends.2⟩
  · rename_i reached
    rw [reached] at answered
    cases answered

end World

namespace Engine

variable {engine : Engine} {entryId : EntryId} {inputs : Values} {world : World} {scope : Scope}

section Seen

variable (inOrder : ∀ method call, world.outages.verdict method call = none)
  (sees : engine.Sees entryId inputs world.store scope)

include inOrder sees

/-- A call on an entry that the engine sees goes on with what it sees. -/
theorem Sees.goesOn {α : Type} {next : Blueprint → List Step → Scope → Run World α}
    {answered : α → World → Prop} {failed : Failure → World → Prop}
    (rest : Meets (World.Observed world) (next scope.blueprint scope.currentSteps scope) answered
      failed) :
    Meets (World.Observed world)
      (do
        let blueprint ← Run.ofExcept (engine.catalog.get scope.entry.workflow)
        let steps ← World.currentSteps entryId
        let properties ← World.properties entryId
        let scope ← engine.scope properties scope.entry blueprint steps inputs
        next blueprint steps scope)
      answered failed := by
  refine meets_ofExcept_bind (fun failure unknown => ?_) fun blueprint known => ?_
  · cases unknown.symm.trans sees.known
  obtain rfl : blueprint = scope.blueprint := Except.ok.inj (known.symm.trans sees.known)
  refine meets_bind (World.request_answers inOrder (fun _ => rfl) rfl failed)
    fun steps => meets_given fun listed => ?_
  obtain rfl : steps = scope.currentSteps := listed.trans sees.steps.symm
  refine meets_bind (World.request_answers inOrder
    (fun now => Store.answer_properties sees.found now) rfl failed) fun properties =>
    meets_given fun held => ?_
  subst held
  refine meets_bind (World.looks_answers (Toolkit.buildScope_looks
    engine.kit.extensions.refuses_any _ inputs) sees.built failed) fun built =>
    meets_given fun same => ?_
  exact same ▸ rest

/-- A listing on such an entry lists each number once, and just those that all candidates admit. -/
theorem availableActions_lists
    (decided : engine.kit.Decided scope (world.store.propertiesOf entryId)
      (Toolkit.candidates scope.blueprint scope.currentSteps)) :
    Meets (World.Observed world) (engine.availableActions entryId inputs)
      (fun numbers _ => numbers.Nodup ∧ ∀ number, number ∈ numbers ↔
        engine.kit.Admits scope (world.store.propertiesOf entryId)
          (Toolkit.candidates scope.blueprint scope.currentSteps) number)
      (fun _ _ => False) := by
  unfold availableActions
  refine meets_bind_via
    (fun found after => found = some (some scope.entry) ∧ World.Observed world after)
    (meets_orElse ?_) fun found => meets_given fun isEntry => ?_
  · refine meets_bind (World.request_answers inOrder (fun _ => rfl) rfl _)
      fun entry => meets_given fun same => ?_
    subst same
    exact meets_pure fun _ observed => ⟨congrArg some sees.found, observed⟩
  subst isEntry
  dsimp only
  rw [if_neg (by simp [isActive_iff.mpr sees.active])]
  refine meets_orElse (sees.goesOn inOrder (meets_turn fun after observed => ?_))
  have held : Turn.properties { world := after, scope, home := entryId } =
      world.store.propertiesOf entryId := by
    rw [Turn.properties, observed.store]
  rw [← held] at decided ⊢
  exact meets_mono
    (meets_at (Toolkit.collectAvailable_walks engine.kit.extensions.refuses_any _ [] _ decided)
      (Toolkit.walking_begins engine.kit after scope entryId))
    (fun _ same => same) (fun _ _ walking => ⟨walking.once, walking.lists⟩) fun _ _ => False.elim

/-- A call on such an entry selects an action just where the candidates of its number admit it. -/
theorem select_admits (number : ActionId)
    (decided : engine.kit.Decided scope (world.store.propertiesOf entryId)
      (Toolkit.candidates scope.blueprint scope.currentSteps)) :
    Meets (World.Observed world) (engine.select entryId inputs number)
      (fun _ _ => engine.kit.Admits scope (world.store.propertiesOf entryId)
        (Toolkit.candidatesFor scope.blueprint scope.currentSteps number) number)
      (fun failure _ => failure = .actionNotAvailable number entryId ∧
        ¬ engine.kit.Admits scope (world.store.propertiesOf entryId)
          (Toolkit.candidatesFor scope.blueprint scope.currentSteps number) number) := by
  unfold select
  refine meets_bind_via (fun entry after => entry = scope.entry ∧ World.Observed world after)
    (meets_bind (World.request_answers inOrder (fun _ => rfl) rfl _)
      fun found => meets_given fun same => ?_)
    fun entry => meets_given fun isEntry => ?_
  · subst same
    refine meets_ofOption (fun entry found after observed => ?_) fun missing => ?_
    · exact ⟨Option.some.inj (found.symm.trans sees.found), observed⟩
    · cases missing.symm.trans sees.found
  subst isEntry
  rw [if_neg (by simp [isActive_iff.mpr sees.active])]
  refine sees.goesOn inOrder (meets_watch fun after observed => ?_)
  refine meets_bind (meets_failures (search_observes engine.kit.extensions.refuses_any observed scope
    entryId _) fun failure turn ends => ?_) fun found => ?_
  · obtain ⟨candidate, member, failed⟩ := ends.2.2
    obtain ⟨verdict, judged⟩ := decided candidate (Toolkit.candidate_of_candidateFor member).1
    cases failed.symm.trans judged
  refine meets_ofOption (fun chosen same turn ends => ?_) fun none turn ends => ?_
  · subst same
    obtain ⟨-, before, stepId, after, split, granted⟩ := ends
    exact Toolkit.admits_of_granted split granted
  · subst none
    exact ⟨rfl, Toolkit.not_admits_of_denied ends.2⟩

/-- So a call on such an entry is not turned down where the candidates of its number admit it. -/
theorem not_rejects_iff (number : ActionId)
    (decided : engine.kit.Decided scope (world.store.propertiesOf entryId)
      (Toolkit.candidates scope.blueprint scope.currentSteps)) :
    ¬ engine.Rejects entryId inputs number world ↔
      engine.kit.Admits scope (world.store.propertiesOf entryId)
        (Toolkit.candidatesFor scope.blueprint scope.currentSteps number) number := by
  have ends := select_admits inOrder sees number decided world (.refl world)
  rw [rejects_iff]
  split at ends
  · rename_i selects
    simp [selects, ends]
  · rename_i selects
    simp [selects, ends]

end Seen

/-- The listing agrees with the calls. On an active entry, with a store in order and guards that do
not fail, a number is listed just where the walk through all candidates admits it, and each number
once; a call is not turned down just where the candidates of its number admit it; and these are the
same as long as no step offers different actions under the number. -/
theorem listing_agrees (inOrder : ∀ method call, world.outages.verdict method call = none)
    (sees : engine.Sees entryId inputs world.store scope)
    (decided : engine.kit.Decided scope (world.store.propertiesOf entryId)
      (Toolkit.candidates scope.blueprint scope.currentSteps)) :
    ∃ numbers, (engine.availableActions entryId inputs world).1 = .ok numbers ∧ numbers.Nodup ∧
      ∀ number,
        (number ∈ numbers ↔ engine.kit.Admits scope (world.store.propertiesOf entryId)
          (Toolkit.candidates scope.blueprint scope.currentSteps) number) ∧
        (¬ engine.Rejects entryId inputs number world ↔
          engine.kit.Admits scope (world.store.propertiesOf entryId)
            (Toolkit.candidatesFor scope.blueprint scope.currentSteps number) number) ∧
        (Toolkit.Sole scope.blueprint scope.currentSteps number →
          (number ∈ numbers ↔ ¬ engine.Rejects entryId inputs number world)) := by
  have ends := availableActions_lists inOrder sees decided world (.refl world)
  split at ends
  · rename_i numbers after listed
    obtain ⟨once, lists⟩ := ends
    refine ⟨numbers, congrArg Prod.fst listed, once, fun number => ?_⟩
    have passes := not_rejects_iff inOrder sees number decided
    refine ⟨lists number, passes, fun sole => ?_⟩
    rw [lists, passes, Toolkit.admits_candidatesFor sole]
  · exact ends.elim

end Engine

/-! ### A number with two actions at one step -/

/-- A workflow whose step has two actions of number 20: its own, which is barred, and a common one,
which is open to all. -/
def veiled : Blueprint where
  name := "veiled"
  initialActions :=
    [{ id := 1, name := "enter",
       unconditionalOutcome := some { target := .step 1, status := "Open" } }]
  commonActions := (∅ : SortedMap ActionId Action).insert 20
    { id := 20, name := "open", unconditionalOutcome := some { target := .step 1, status := "Open" } }
  steps :=
    [{ id := 1, name := "only",
       actions := [{ id := 20, name := "barred",
                     restriction := some { children := [.leaf { call := { type := "never" } }] },
                     unconditionalOutcome := some { target := .step 1, status := "Open" } }],
       commonActions := [20] }]

def veiledEngine : Engine where
  catalog := ((default : Catalog).register veiled).toOption.getD default

/-- The world after the workflow was started. -/
def veiledWorld : World :=
  veiledEngine.perform {} (.start "veiled" 1 ∅)

/-- What a call on the entry sees. -/
def veiledScope : Scope where
  caller := none
  entry := ⟨1, "veiled", .activated, ⟨0, 0⟩⟩
  blueprint := veiled
  currentSteps := [{ id := 1, entryId := 1, defId := 1, status := "Open", startDate := ⟨0, 0⟩ }]

theorem veiledEngine_sees : veiledEngine.Sees 1 ∅ veiledWorld.store veiledScope where
  found := by decide +kernel
  active := rfl
  known := rfl
  steps := by decide +kernel
  built _ := rfl

/-- The listing shows the common action, and the call is turned down for the step's own one. -/
theorem veiled_listed_and_rejected :
    veiledWorld.Reachable ∧ (veiledEngine.availableActions 1 ∅ veiledWorld).1 = .ok [20] ∧
      veiledEngine.Rejects 1 ∅ 20 veiledWorld ∧
      ¬ Toolkit.Sole veiled veiledScope.currentSteps 20 := by
  have standard : veiledEngine.Standard := rfl
  have reachable : veiledWorld.Reachable := ⟨{}, ⟨0, 0⟩, .call .here standard _⟩
  have inOrder (method : StoreMethod) (call : Nat) :
      veiledWorld.outages.verdict method call = none := by
    rw [veiledWorld, Engine.perform_verdict standard .new]
  have listed : (veiledEngine.availableActions 1 ∅ veiledWorld).1 = .ok [20] :=
    ok_of_eval (by decide +kernel)
  have rejects : veiledEngine.Rejects 1 ∅ 20 veiledWorld :=
    ⟨failed_of_eval (by decide +kernel), by decide +kernel⟩
  obtain ⟨numbers, answered, -, agree⟩ := Engine.listing_agrees inOrder veiledEngine_sees
    (Toolkit.decided_of_eval (by decide +kernel))
  obtain rfl := Except.ok.inj (listed.symm.trans answered)
  refine ⟨reachable, listed, rejects, fun sole => ?_⟩
  exact ((agree 20).2.2 sole).mp (List.mem_singleton.mpr rfl) rejects

end Caseflow
