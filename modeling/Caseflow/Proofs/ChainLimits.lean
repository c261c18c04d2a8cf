import Caseflow.Proofs.Rounds
import Caseflow.Proofs.Rollback
/-! Limits on the actions that follow one another on their own. Nothing but the chain of a call
looks at its limit, and the chain hands on nothing from one action to the next except the number of
that action: so a chain comes to what as many single calls come to, and a larger limit goes on from
where a smaller one stops. -/
namespace Caseflow

open Run

namespace Toolkit

/-! ### What does not depend on the limit -/

/-- The same toolkit with another limit on the actions that follow one another on their own. -/
def limited (kit : Toolkit) (limit : Nat) : Toolkit :=
  { kit with settings := { kit.settings with maxAutoChainDepth := limit } }

section Limited

variable (kit : Toolkit) (limit : Nat) (scope : Scope) (properties : Values) (stepId : StepDefId)

mutual

theorem conditionPasses_limited : (condition : Condition) →
    (kit.limited limit).conditionPasses scope properties stepId condition =
      kit.conditionPasses scope properties stepId condition
  | .leaf check => by
    rw [conditionPasses, conditionPasses]
    rfl
  | .group combinator [] => by rw [conditionPasses, conditionPasses]
  | .group combinator (child :: rest) => by
    rw [conditionPasses, conditionPasses]
    · exact childrenPass_limited combinator (child :: rest)
    all_goals simp

theorem childrenPass_limited (combinator : Combinator) : (children : List Condition) →
    (kit.limited limit).childrenPass scope properties stepId combinator children =
      kit.childrenPass scope properties stepId combinator children
  | [] => by rw [childrenPass, childrenPass]
  | child :: rest => by
    rw [childrenPass, childrenPass, conditionPasses_limited child,
      childrenPass_limited combinator rest]

end

theorem treePasses_limited (tree : Option Conditions) :
    (kit.limited limit).treePasses scope properties stepId tree =
      kit.treePasses scope properties stepId tree := by
  cases tree with
  | none => rfl
  | some tree => exact conditionPasses_limited kit limit scope properties stepId tree.nested

theorem mayFire_limited (action : Action) :
    (kit.limited limit).mayFire scope properties stepId action =
      kit.mayFire scope properties stepId action := by
  simp only [mayFire, treePasses_limited]

theorem addRegisters_limited (registers : List RegisterCall) :
    buildScope.addRegisters (kit.limited limit) properties scope registers =
      buildScope.addRegisters kit properties scope registers := by
  induction registers generalizing scope with
  | nil => rfl
  | cons register rest ih =>
    unfold buildScope.addRegisters
    simp only [ih]
    rfl

theorem buildScope_limited : (kit.limited limit).buildScope = kit.buildScope := by
  funext properties scope inputs
  exact addRegisters_limited kit limit _ properties _

theorem isAvailable_limited : (kit.limited limit).isAvailable = kit.isAvailable := by
  funext candidate stepId
  simp only [isAvailable, mayFire_limited]

theorem passesNow_limited : (kit.limited limit).passesNow = kit.passesNow := by
  funext tree stepId
  simp only [passesNow, treePasses_limited]

theorem firstAvailable_limited : (kit.limited limit).firstAvailable = kit.firstAvailable := by
  funext candidates
  induction candidates with
  | nil => rfl
  | cons candidate rest ih => simp only [firstAvailable, isAvailable_limited, ih]

theorem firstOffering_limited (blueprint : Blueprint) (actionId : ActionId) :
    (kit.limited limit).firstOffering blueprint actionId = kit.firstOffering blueprint actionId := by
  funext steps
  induction steps with
  | nil => rfl
  | cons step rest ih => simp only [firstOffering, isAvailable_limited, ih]

theorem firstPassing_limited (stepId : StepDefId) :
    (kit.limited limit).firstPassing stepId = kit.firstPassing stepId := by
  funext outcomes
  induction outcomes with
  | nil => rfl
  | cons outcome rest ih => simp only [firstPassing, passesNow_limited, ih]

theorem findAutomatic_limited : (kit.limited limit).findAutomatic = kit.findAutomatic := by
  funext blueprint steps
  exact congrFun (kit.firstAvailable_limited limit) _

theorem findRequested_limited : (kit.limited limit).findRequested = kit.findRequested := by
  funext blueprint steps number
  exact congrFun (kit.firstAvailable_limited limit) _

theorem enterStep_limited : (kit.limited limit).enterStep = kit.enterStep := rfl

theorem enterSiblings_limited (actionId : ActionId) (leaving : Option Step) :
    (kit.limited limit).enterSiblings actionId leaving = kit.enterSiblings actionId leaving := by
  funext isFirst outcomes
  induction outcomes generalizing isFirst with
  | nil => rfl
  | cons outcome rest ih => simp only [enterSiblings, enterStep_limited, ih]

theorem takeSplit_limited : (kit.limited limit).takeSplit = kit.takeSplit := by
  funext splitId action leaving
  simp only [takeSplit, enterSiblings_limited]
  rfl

theorem takeJoin_limited : (kit.limited limit).takeJoin = kit.takeJoin := by
  funext joinId action outcome leaving
  simp only [takeJoin, passesNow_limited]
  rfl

theorem takeOutcome_limited : (kit.limited limit).takeOutcome = kit.takeOutcome := by
  funext action outcome leaving
  simp only [takeOutcome, takeSplit_limited, takeJoin_limited]
  rfl

theorem execute_limited : (kit.limited limit).execute = kit.execute := by
  funext chosen
  simp only [execute, leavingStep, selectOutcome, firstOffering_limited, firstPassing_limited,
    takeOutcome_limited]
  rfl

end Limited

end Toolkit

namespace Engine

/-- The same engine with another limit. -/
def limited (engine : Engine) (limit : Nat) : Engine :=
  { engine with kit := engine.kit.limited limit }

variable (engine : Engine) (limit : Nat)

theorem scope_limited : (engine.limited limit).scope = engine.scope := by
  funext properties entry blueprint steps inputs
  simp only [scope, limited, Toolkit.buildScope_limited]

theorem settle_limited : (engine.limited limit).settle = engine.settle := by
  funext entryId actionId inputs progress
  cases progress with
  | finished => rfl
  | continued =>
    simp only [settle, scope_limited]
    simp only [limited, Toolkit.findAutomatic_limited]
    rfl

theorem select_limited : (engine.limited limit).select = engine.select := by
  funext entryId inputs actionId
  simp only [select, scope_limited]
  simp only [limited, Toolkit.findRequested_limited]

theorem carryOn_limited : (engine.limited limit).carryOn = engine.carryOn := by
  funext entryId inputs actionId selected
  simp only [carryOn, settle_limited]
  simp only [limited, Toolkit.execute_limited]

theorem act_limited : (engine.limited limit).act = engine.act := by
  funext entryId inputs actionId
  rw [act_eq, act_eq, select_limited, carryOn_limited]

theorem initiate_limited : (engine.limited limit).initiate = engine.initiate := by
  funext entry blueprint action inputs
  simp only [initiate, scope_limited]
  simp only [limited, Toolkit.treePasses_limited]

theorem runInitial_limited : (engine.limited limit).runInitial = engine.runInitial := by
  funext entry blueprint action inputs
  rw [runInitial_eq, runInitial_eq, initiate_limited, carryOn_limited]

/-! ### Actions one call at a time -/

variable {engine : Engine} {entryId : EntryId} {inputs : Values} {number : ActionId} {world : World}

/-- A call that goes through has selected one action, of the number that was asked for. -/
theorem selection_of_acted {next : Option ActionId} {after : World}
    (acted : engine.act entryId inputs number world = (.ok next, after)) :
    ∃ selected : ScopedAction × Turn, selected.1.id = number ∧
      engine.selection entryId inputs number world = [selected] := by
  rw [act_eq, bind_eq] at acted
  obtain ⟨selected, middle, selects, -⟩ := Run.of_andThen_ok acted
  have only : engine.selection entryId inputs number world = [selected] := by
    unfold selection
    rw [selects]
    rfl
  have isSelected : engine.Selected entryId inputs number world selected.1 selected.2 :=
    (selected_of_mem (by rw [only]; exact List.mem_singleton.mpr rfl)).2
  obtain ⟨before, stepId, behind, split, -⟩ := isSelected.granted
  have isCandidate : (selected.1, stepId) ∈ Toolkit.candidatesFor
      selected.2.scope.blueprint selected.2.scope.currentSteps number := by
    rw [split]
    simp
  exact ⟨selected, (Toolkit.candidate_of_candidateFor isCandidate).2, only⟩

/-- These actions are executed by one call each, every call in the world that the one before it
leaves: all but the last call stop at the limit, as soon as they have executed their action, and
the last one succeeds. -/
inductive SingleCalls (engine : Engine) (entryId : EntryId) (inputs : Values) :
    List (ScopedAction × Turn) → World → World → Prop where
  | last {selected : ScopedAction × Turn} {world : World}
      (alone : engine.executed world (.act entryId selected.1.id inputs) = [selected])
      (answered : (engine.doAction entryId selected.1.id inputs world).result = .ok ()) :
      SingleCalls engine entryId inputs [selected] world
        (engine.doAction entryId selected.1.id inputs world).world
  | next {selected : ScopedAction × Turn} {rest : List (ScopedAction × Turn)} {world after : World}
      (alone : engine.executed world (.act entryId selected.1.id inputs) = [selected])
      (stopped : (engine.doAction entryId selected.1.id inputs world).result =
        .error (.chainLimitExceeded 0))
      (later : SingleCalls engine entryId inputs rest
        (engine.doAction entryId selected.1.id inputs world).world after) :
      SingleCalls engine entryId inputs (selected :: rest) world after

/-- Where no action may follow on its own, a call ends where its action does. -/
theorem doAction_unchained {next : Option ActionId} {after : World}
    (acted : engine.act entryId inputs number world = (.ok next, after)) :
    (engine.limited 0).doAction entryId number inputs world =
      match next with
      | none => ⟨.ok (), after, false⟩
      | some _ => ⟨.error (.chainLimitExceeded 0), after, true⟩ := by
  unfold doAction Reply.ofRun
  rw [act_limited, andThen_ok acted]
  cases next <;> rfl

/-- It executes its action and nothing else. -/
theorem executed_unchained (engine : Engine) (world : World) (number : ActionId) :
    (engine.limited 0).executed world (.act entryId number inputs) =
      engine.selection entryId inputs number world := by
  show (engine.limited 0).selection entryId inputs number world = _
  unfold selection
  rw [select_limited]

/-- A chain of actions that goes through is one of single calls. -/
theorem singleCalls_of_chained (limit : Nat) {after : World}
    (answered : andThen (engine.act entryId inputs number) (engine.chain entryId inputs limit) world =
      (.ok (), after)) :
    (engine.limited 0).SingleCalls entryId inputs
      (engine.executions entryId inputs limit number world) world after := by
  have ends {number : ActionId} {world after : World}
      (acted : engine.act entryId inputs number world = (.ok none, after)) :
      (engine.limited 0).SingleCalls entryId inputs
        (engine.selection entryId inputs number world) world after := by
    obtain ⟨selected, rfl, only⟩ := selection_of_acted acted
    have call := doAction_unchained acted
    have last : (engine.limited 0).SingleCalls entryId inputs [selected] world _ :=
      .last ((executed_unchained engine world _).trans only) (by rw [call])
    rw [call] at last
    rw [only]
    exact last
  induction limit generalizing number world with
  | zero =>
    obtain ⟨next, middle, acted, rest⟩ := of_andThen_ok answered
    cases next with
    | none =>
      cases rest
      exact ends acted
    | some _ => cases rest
  | succ limit ih =>
    obtain ⟨next, middle, acted, rest⟩ := of_andThen_ok answered
    unfold executions
    rw [acted]
    cases next with
    | none =>
      cases rest
      simpa using ends acted
    | some next =>
      obtain ⟨selected, rfl, only⟩ := selection_of_acted acted
      have call := doAction_unchained acted
      rw [only]
      refine .next ((executed_unchained engine world _).trans only) (by rw [call]) ?_
      rw [call]
      exact ih rest

/-- A call that executes several actions one after the other, as each leads to the next, does what
as many calls do that execute one action each and let none follow on its own: each of those finds
its action in the same turn as the chain does, and the last one leaves the same world. -/
theorem chain_as_single_calls
    (answered : (engine.doAction entryId number inputs world).result = .ok ()) :
    (engine.limited 0).SingleCalls entryId inputs
        (engine.executed world (.act entryId number inputs)) world
        (engine.doAction entryId number inputs world).world ∧
      ((engine.executed world (.act entryId number inputs)).head?.map (·.1.id)) = some number := by
  have reached := Reply.of_answered answered
  refine ⟨singleCalls_of_chained _ reached, ?_⟩
  obtain ⟨next, middle, acted, -⟩ := of_andThen_ok reached
  obtain ⟨selected, same, only⟩ := selection_of_acted acted
  show ((engine.executions entryId inputs _ number world).head?.map _) = _
  unfold executions
  split <;> simp [only, same]

end Engine

/-- A workflow whose first action is followed by two more, from step to step. -/
def relay : Blueprint where
  name := "relay"
  initialActions :=
    [{ id := 1, name := "enter",
       unconditionalOutcome := some { target := .step 1, status := "Open" } }]
  steps :=
    [{ id := 1, name := "first",
       actions := [{ id := 10, name := "start",
                     unconditionalOutcome := some { target := .step 2, status := "Open" } }] },
     { id := 2, name := "second",
       actions := [{ id := 20, name := "pass", autoExecute := true,
                     unconditionalOutcome := some { target := .step 3, status := "Open" } }] },
     { id := 3, name := "third",
       actions := [{ id := 30, name := "arrive", autoExecute := true,
                     unconditionalOutcome := some { target := .step 4, status := "Open" } }] },
     { id := 4, name := "fourth",
       actions := [{ id := 40, name := "stay",
                     unconditionalOutcome := some { target := .step 4, status := "Open" } }] }]

def relayEngine : Engine where
  catalog := ((default : Catalog).register relay).toOption.getD default

def relayWorld : World :=
  relayEngine.perform {} (.start "relay" 1 ∅)

/-- The relay runs in one call as it does in three. -/
theorem relay_runs_singly :
    (relayEngine.doAction 1 10 ∅ relayWorld).result = .ok () ∧
      (relayEngine.executed relayWorld (.act 1 10 ∅)).map (·.1.id) = [10, 20, 30] ∧
      (relayEngine.limited 0).SingleCalls 1 ∅ (relayEngine.executed relayWorld (.act 1 10 ∅))
        relayWorld (relayEngine.doAction 1 10 ∅ relayWorld).world := by
  have answered : (relayEngine.doAction 1 10 ∅ relayWorld).result = .ok () :=
    ok_of_eval (by decide +kernel)
  exact ⟨answered, by decide +kernel, (Engine.chain_as_single_calls answered).1⟩

namespace Engine

variable {engine : Engine} {entryId : EntryId} {inputs : Values} {number : ActionId} {world : World}

/-! ### Larger and smaller limits -/

/-- What has been picked and carried on with to the end was one action. -/
private theorem one_of_picked {pick : Run World (ScopedAction × Turn)} {next : Option ActionId}
    {after : World}
    (reached : (pick >>= engine.carryOn entryId inputs number) world = (.ok next, after)) :
    (pick world).1.toOption.toList.length = 1 := by
  obtain ⟨selected, middle, picked, -⟩ := of_andThen_ok reached
  rw [picked]
  rfl

/-- An action that leads to another one has begun just itself. -/
private theorem begun_of_acted {next : Option ActionId} {after : World}
    (acted : engine.act entryId inputs number world = (.ok next, after)) :
    (begunIn after.journal).length = (begunIn world.journal).length + 1 := by
  have begins := (engine.act_begins entryId inputs number world).begun
  rw [acted] at begins
  rw [act_eq] at acted
  have one : (engine.selection entryId inputs number world).length = 1 := one_of_picked acted
  rw [begins, List.length_append, List.length_map, one]

/-- So has the initial action of an entry. -/
private theorem begun_of_started {entry : Entry} {blueprint : Blueprint} {action : Action}
    {next : Option ActionId} {after : World}
    (started : engine.runInitial entry blueprint action inputs world = (.ok next, after)) :
    (begunIn after.journal).length = (begunIn world.journal).length + 1 := by
  have begins := (engine.runInitial_begins entry blueprint action inputs world).begun
  rw [started] at begins
  rw [runInitial_eq] at started
  rw [begins, List.length_append, List.length_map, one_of_picked started]

/-- A call executes the action that was asked for, and no more on top of it than the limit. -/
theorem executions_length (limit : Nat) (number : ActionId) (world : World) :
    (engine.executions entryId inputs limit number world).length ≤ limit + 1 := by
  have selects (number : ActionId) (world : World) :
      (engine.selection entryId inputs number world).length ≤ 1 := by
    unfold selection
    cases (engine.select entryId inputs number world).1 <;> simp [Except.toOption]
  induction limit generalizing number world with
  | zero => exact selects number world
  | succ limit ih =>
    unfold executions
    rw [List.length_append]
    have first := selects number world
    split
    · rename_i next after _
      have later := ih next after
      omega
    · simp only [List.length_nil]
      omega

theorem chained_length (engine : Engine) (entryId : EntryId) (inputs : Values) (limit : Nat)
    (reached : Except Failure (Option ActionId) × World) :
    (engine.chained entryId inputs limit reached).length ≤ limit := by
  unfold chained
  split
  · exact executions_length _ _ _
  · exact Nat.zero_le _

theorem executed_length (engine : Engine) (world : World) (operation : Operation) :
    (engine.executed world operation).length ≤ engine.kit.settings.maxAutoChainDepth + 1 := by
  cases operation with
  | start workflow actionId inputs =>
    show (engine.startExecutions workflow actionId inputs world).length ≤ _
    unfold startExecutions
    split
    · exact Nat.zero_le _
    · rename_i blueprint action _
      split
      · exact Nat.zero_le _
      · rename_i entry created _
        have first : (engine.initiate entry blueprint action inputs
            created).1.toOption.toList.length ≤ 1 := by
          cases (engine.initiate entry blueprint action inputs created).1 <;>
            simp [Except.toOption]
        have later := engine.chained_length entry.id inputs
          engine.kit.settings.maxAutoChainDepth
          (engine.runInitial entry blueprint action inputs created)
        rw [List.length_append]
        omega
  | act entryId actionId inputs => exact executions_length _ _ _
  | changeState entryId target => exact Nat.zero_le _
  | setProperty entryId name value => exact Nat.zero_le _

/-- Chains with a smaller and a larger limit are the same, or the smaller limit cuts the chain off
in a world from which the other one goes on. -/
theorem chain_limited (engine : Engine) (entryId : EntryId) (inputs : Values)
    (limit larger count extra : Nat) (next : Option ActionId) (world : World) :
    (engine.limited limit).chain entryId inputs count next world =
        (engine.limited larger).chain entryId inputs (count + extra) next world ∨
      ∃ number after,
        (engine.limited limit).chain entryId inputs count next world =
          (.error (.chainLimitExceeded limit), after) ∧
        (engine.limited larger).chain entryId inputs (count + extra) next world =
          (engine.limited larger).chain entryId inputs extra (some number) after ∧
        (begunIn after.journal).length = (begunIn world.journal).length + count := by
  induction count generalizing next world with
  | zero =>
    cases next with
    | none => exact .inl (by rw [chain_none, chain_none])
    | some number => exact .inr ⟨number, world, rfl, by rw [Nat.zero_add], rfl⟩
  | succ count ih =>
    cases next with
    | none => exact .inl (by rw [chain_none, chain_none])
    | some number =>
      have unfolds (limit count : Nat) :
          (engine.limited limit).chain entryId inputs (count + 1) (some number) world =
            andThen (engine.act entryId inputs number)
              ((engine.limited limit).chain entryId inputs count) world := by
        rw [← act_limited engine limit]
        rfl
      rw [Nat.succ_add, unfolds, unfolds]
      cases acted : engine.act entryId inputs number world with
      | mk result middle =>
        cases result with
        | error failure =>
          rw [andThen_error acted, andThen_error acted]
          exact .inl rfl
        | ok next =>
          rw [andThen_ok acted, andThen_ok acted]
          refine (ih next middle).imp_right ?_
          rintro ⟨number, after, cut, goesOn, begun⟩
          refine ⟨number, after, cut, goesOn, ?_⟩
          rw [begun, begun_of_acted acted]
          omega

/-- The chain of a call, and then its answer. -/
def following {α : Type} (engine : Engine) (entryId : EntryId) (inputs : Values) (value : α)
    (limit : Nat) (next : Option ActionId) : Run World α :=
  andThen (engine.chain entryId inputs limit next) fun _ => done value

theorem following_unit (engine : Engine) (entryId : EntryId) (inputs : Values) (limit : Nat)
    (next : Option ActionId) :
    engine.following entryId inputs () limit next = engine.chain entryId inputs limit next := by
  funext world
  unfold following andThen
  split <;> simp [*, done]

/-- A call with a smaller limit was cut off: it has executed just as many actions as the limit lets
it, and the call with the larger limit goes on with the action that comes next, from the world that
the shorter call has left. -/
structure CutOff {α : Type} (engine : Engine) (entryId : EntryId) (inputs : Values)
    (limit larger : Nat) (world : World) (short long : Reply α) : Prop where
  exceeded : short.result = .error (.chainLimitExceeded limit)
  marked : short.rollback = true
  begun : (begunIn short.world.journal).length = (begunIn world.journal).length + (limit + 1)
  continued : short.world.journal <+: long.world.journal
  goesOn : ∃ marks next value, long = Reply.ofRun marks
    ((engine.limited larger).following entryId inputs value (larger - limit) (some next)) short.world

/-- What goes on from a world only adds to its journal. -/
private theorem continued_of_following {α : Type} (marks : Failure → Bool) (value : α) (limit : Nat)
    (next : Option ActionId) (world : World) :
    world.journal <+:
      (Reply.ofRun marks (engine.following entryId inputs value limit next) world).world.journal := by
  have begins : world.journal <+: (engine.chain entryId inputs limit next world).2.journal :=
    (chained_begin limit next world).continued
  rw [Reply.world_ofRun]
  unfold following
  cases reached : engine.chain entryId inputs limit next world with
  | mk result after =>
    rw [reached] at begins
    cases result with
    | error failure => rwa [andThen_error reached]
    | ok _ => rwa [andThen_ok reached]

/-- Once its first action was executed, a call with a smaller limit comes to the same as one with a
larger limit, or it is cut off. -/
private theorem following_limited (engine : Engine) (entryId : EntryId) (inputs : Values) {α : Type}
    (marks : Failure → Bool) {limit larger : Nat}
    (marked : marks (.chainLimitExceeded limit) = true) (within : limit ≤ larger) (value : α)
    (next : Option ActionId) {middle : World}
    (begun : (begunIn middle.journal).length = (begunIn world.journal).length + 1) :
    let call (limit : Nat) := Reply.ofRun marks
      ((engine.limited limit).following entryId inputs value limit next) middle
    call limit = call larger ∨
      engine.CutOff entryId inputs limit larger world (call limit) (call larger) := by
  intro call
  have chains := engine.chain_limited entryId inputs limit larger limit (larger - limit) next middle
  rw [Nat.add_sub_cancel' within] at chains
  rcases chains with same | ⟨number, after, cut, goesOn, executed⟩
  · left
    simp only [call, Reply.ofRun, following, andThen, same]
  · right
    have short : call limit = ⟨.error (.chainLimitExceeded limit), after, true⟩ := by
      simp only [call, Reply.ofRun, following, andThen, cut, marked]
    have long : call larger = Reply.ofRun marks
        ((engine.limited larger).following entryId inputs value (larger - limit) (some number))
        after := by
      simp only [call, Reply.ofRun, following, andThen, goesOn]
    rw [short]
    refine ⟨rfl, rfl, by rw [executed, begun]; omega, ?_, marks, number, value, long⟩
    rw [long]
    exact continued_of_following marks value _ _ after

private theorem doAction_limited {limit larger : Nat} (within : limit ≤ larger) :
    let call (limit : Nat) := (engine.limited limit).doAction entryId number inputs world
    call limit = call larger ∨
      engine.CutOff entryId inputs limit larger world (call limit) (call larger) := by
  cases acted : engine.act entryId inputs number world with
  | mk result middle =>
    cases result with
    | error failure =>
      left
      simp only [doAction, act_limited, Reply.ofRun, andThen_error acted]
    | ok next =>
      have calls (limit : Nat) : (engine.limited limit).doAction entryId number inputs world =
          Reply.ofRun Failure.requiresRollback
            ((engine.limited limit).following entryId inputs () limit next) middle := by
        rw [following_unit]
        unfold doAction Reply.ofRun
        rw [act_limited, andThen_ok acted]
        rfl
      simp only [calls]
      exact engine.following_limited entryId inputs _ rfl within () next (begun_of_acted acted)

private theorem startEntry_limited {limit larger : Nat} (within : limit ≤ larger)
    (workflow : String) :
    let call (limit : Nat) := (engine.limited limit).startEntry workflow number inputs world
    call limit = call larger ∨
      ∃ entryId, engine.CutOff entryId inputs limit larger world (call limit) (call larger) := by
  cases found : engine.initialAction workflow number with
  | error failure =>
    left
    have refused (limit : Nat) : (engine.limited limit).startEntry workflow number inputs world =
        ⟨.error failure, world, false⟩ := by
      unfold startEntry
      rw [show (engine.limited limit).initialAction workflow number = _ from found]
    exact (refused limit).trans (refused larger).symm
  | ok initial =>
    obtain ⟨blueprint, action⟩ := initial
    have quiet : begunIn (World.createEntry workflow world).2.journal = begunIn world.journal :=
      ((lasting_begunIn _).enduring.request_keeps (.createEntry workflow)).after rfl
    have starts (limit : Nat) : (engine.limited limit).startEntry workflow number inputs world =
        Reply.ofRun (fun _ => true) (andThen (World.createEntry workflow) fun entry =>
          andThen (engine.runInitial entry blueprint action inputs) fun next =>
            (engine.limited limit).following entry.id inputs entry.id limit next) world := by
      unfold startEntry
      rw [show (engine.limited limit).initialAction workflow number = _ from found,
        runInitial_limited]
      rfl
    simp only [starts]
    cases created : World.createEntry workflow world with
    | mk result middle =>
      rw [created] at quiet
      cases result with
      | error failure =>
        left
        simp only [Reply.ofRun, andThen_error created]
      | ok entry =>
        cases started : engine.runInitial entry blueprint action inputs middle with
        | mk result after =>
          cases result with
          | error failure =>
            left
            simp only [Reply.ofRun, andThen_ok created, andThen_error started]
          | ok next =>
            have begun : (begunIn after.journal).length = (begunIn world.journal).length + 1 := by
              rw [begun_of_started started, ← quiet]
            have limits := engine.following_limited entry.id inputs (fun _ => true) rfl within
              entry.id next begun
            simp only [Reply.ofRun, andThen_ok created, andThen_ok started] at limits ⊢
            exact limits.imp_right fun cut => ⟨entry.id, cut⟩

/-- A call executes at most one action more than the limit. With a smaller limit it comes to the
same as with a larger one, or it is cut off: it fails at the limit, in the world that the call with
the larger limit has reached after as many actions. -/
theorem limit_truncates {limit larger : Nat} (within : limit ≤ larger) (engine : Engine)
    (world : World) (actionId : ActionId) (inputs : Values) :
    (∀ operation, ((engine.limited limit).executed world operation).length ≤ limit + 1) ∧
    (∀ entryId,
      let call (limit : Nat) := (engine.limited limit).doAction entryId actionId inputs world
      call limit = call larger ∨
        engine.CutOff entryId inputs limit larger world (call limit) (call larger)) ∧
    ∀ workflow,
      let call (limit : Nat) := (engine.limited limit).startEntry workflow actionId inputs world
      call limit = call larger ∨
        ∃ entryId, engine.CutOff entryId inputs limit larger world (call limit) (call larger) :=
  ⟨fun operation => (engine.limited limit).executed_length world operation,
    fun _ => doAction_limited within, startEntry_limited within⟩

end Engine

/-- A workflow with an action that follows itself on its own. -/
def echo : Blueprint where
  name := "echo"
  initialActions :=
    [{ id := 1, name := "enter",
       unconditionalOutcome := some { target := .step 1, status := "Open" } }]
  steps :=
    [{ id := 1, name := "only",
       actions := [{ id := 10, name := "again", autoExecute := true,
                     unconditionalOutcome := some { target := .step 1, status := "Open" } }] }]

def echoEngine : Engine where
  catalog := ((default : Catalog).register echo).toOption.getD default

/-- A limit of one stops the echo after two actions, where a limit of three goes on for two more. -/
theorem echo_cut_off :
    let call (limit : Nat) := (echoEngine.limited limit).startEntry "echo" 1 ∅ {}
    1 ≤ 3 ∧ (∃ entryId, echoEngine.CutOff entryId ∅ 1 3 {} (call 1) (call 3)) ∧
      begunIn (call 1).world.journal = [(1, ⟨.initial, 1⟩), (1, ⟨.step 1, 10⟩)] ∧
      (begunIn (call 3).world.journal).length = 4 := by
  intro call
  have within : 1 ≤ 3 := by decide
  have stops : (call 1).result = .error (.chainLimitExceeded 1) := failed_of_eval (by decide +kernel)
  have later : (call 3).result = .error (.chainLimitExceeded 3) := failed_of_eval (by decide +kernel)
  have apart : call 1 ≠ call 3 := by
    intro same
    rw [same, later] at stops
    cases stops
  have truncates := (Engine.limit_truncates within echoEngine {} 1 ∅).2.2 "echo"
  exact ⟨within, truncates.resolve_left apart, by decide +kernel, by decide +kernel⟩

end Caseflow
