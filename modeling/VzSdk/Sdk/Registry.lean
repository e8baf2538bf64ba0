import VzSdk.Sdk.Handles
import VzSdk.Sdk.Responses

/-!
# The registry of push handles

`push_handles_` and `push_handle_keys_` under any calls of `AddPushHandle` and
`RemovePushHandle`. Nothing checks whether a handle is registered already, or
whether another handle still needs a key: `registry_represents_iff` says in which
runs the two containers agree throughout.
-/

namespace VzSdk.Sdk

open VzSdk.Base VzSdk.Event VzSdk.Std

/-- A call that registers a handle, or takes it out. -/
inductive RegistryCall where
  | addPushHandle (handle : PushHandle)
  | removePushHandle (handle : PushHandle)
deriving DecidableEq, Repr

/-- The handle of a call. -/
def RegistryCall.handle : RegistryCall → PushHandle
  | .addPushHandle handle => handle
  | .removePushHandle handle => handle

namespace PushManagerTask

/-- What a call does to the push task. -/
def execute (manager : PushManagerTask) : RegistryCall → PushManagerTask
  | .addPushHandle handle => manager.addPushHandle handle
  | .removePushHandle handle => manager.removePushHandle handle

/-- The calls on the registry. `cmdKey` gives every handle object the key of its construction. -/
def registryStep (cmdKey : Nat → String) (manager : PushManagerTask) (call : RegistryCall) :
    Option (PushManagerTask × List Empty) :=
  if call.handle.cmdKey = cmdKey call.handle.object then some (manager.execute call, []) else none

/-- The object is registered. -/
def Registered (manager : PushManagerTask) (object : Nat) : Prop :=
  ∃ handle ∈ manager.pushHandles, handle.object = object

instance (manager : PushManagerTask) (object : Nat) : Decidable (manager.Registered object) :=
  inferInstanceAs (Decidable (∃ handle ∈ manager.pushHandles, handle.object = object))

end PushManagerTask

/-- The calls on the registry, with the last one remembered. -/
def registryMachine (cmdKey : Nat → String) :
    Machine (PushManagerTask × Option RegistryCall) RegistryCall Empty :=
  Machine.watch ⟨PushManagerTask.registryStep cmdKey⟩ fun _ _ call _ => some call

/-- `ReciveIvsResult` on a device, also when it comes back. -/
def reciveIvsResult (sessionId : UInt32) (handle : PushHandle) : List RegistryCall :=
  if sessionId = 0 then [] else [.addPushHandle handle]

/-- The calls that `SetReciveIvsResultCallback` makes. -/
def setReciveIvsResultCallback (sessionId : UInt32) (ivsHandle : PushHandle) : List RegistryCall :=
  .addPushHandle ivsHandle :: reciveIvsResult sessionId ivsHandle

/-- The two containers agree, and `HandleResponse` goes by what is registered. -/
structure Represents (watched : PushManagerTask × Option RegistryCall) : Prop where
  keys : ∀ key, key ∈ watched.1.pushHandleKeys ↔
    ∃ handle ∈ watched.1.pushHandles, handle.cmdKey = key
  once : (watched.1.pushHandles.map (·.object)).Nodup
  removed : ∀ handle, watched.2 = some (.removePushHandle handle) →
    ¬watched.1.Registered handle.object
  forwards : ∀ stanza cmd, stanza.stanzaType = .resStanzaEvent →
    (stanza.resJson .null).cmd = some cmd →
      ((watched.1.handleMessage 0 stanza).any (·.posts) = true ↔
        ∃ handle ∈ watched.1.pushHandles, handle.cmdKey = cmd)

/-- A handle that is added is not registered yet, and no other handle has the key of one that
is removed. -/
def RegistersOnce (watched : PushManagerTask × Option RegistryCall) : RegistryCall → Prop
  | .addPushHandle handle => ¬watched.1.Registered handle.object
  | .removePushHandle handle => ∀ other ∈ watched.1.pushHandles,
      other.object ≠ handle.object → other.cmdKey ≠ handle.cmdKey

instance (watched : PushManagerTask × Option RegistryCall) (call : RegistryCall) :
    Decidable (RegistersOnce watched call) :=
  match call with
  | .addPushHandle handle => inferInstanceAs (Decidable ¬watched.1.Registered handle.object)
  | .removePushHandle handle =>
      inferInstanceAs (Decidable (∀ other ∈ watched.1.pushHandles,
        other.object ≠ handle.object → other.cmdKey ≠ handle.cmdKey))

namespace PushManagerTask

variable {manager : PushManagerTask} {handle : PushHandle}

/-- The keys after a registration. -/
theorem mem_keys_addPushHandle (key : String) :
    key ∈ (manager.addPushHandle handle).pushHandleKeys ↔
      key ∈ manager.pushHandleKeys ∨ key = handle.cmdKey := by
  simp only [addPushHandle, List.contains_iff_mem]
  split
  · next known =>
      constructor
      · exact .inl
      · rintro (known | rfl)
        · exact known
        · exact known
  · simp

/-- A registration leaves every handle once, unless it was registered. -/
theorem once_addPushHandle_iff (once : (manager.pushHandles.map (·.object)).Nodup) :
    ((manager.addPushHandle handle).pushHandles.map (·.object)).Nodup ↔
      ¬manager.Registered handle.object := by
  simp only [addPushHandle, List.map_append, List.map_cons, List.map_nil]
  rw [List.nodup_append]
  simp [once, Registered]

/-- Of handles that occur once each, the others remain. -/
theorem mem_removePushHandle (once : (manager.pushHandles.map (·.object)).Nodup)
    (other : PushHandle) :
    other ∈ (manager.removePushHandle handle).pushHandles ↔
      other ∈ manager.pushHandles ∧ other.object ≠ handle.object := by
  simp only [removePushHandle]
  generalize manager.pushHandles = handles at once ⊢
  induction handles with
  | nil => simp
  | cons first rest inductionHypothesis =>
      rw [List.map_cons, List.nodup_cons] at once
      obtain ⟨new, once⟩ := once
      have apart (member : other ∈ rest) : other.object ≠ first.object := by
        intro same
        exact new (List.mem_map.mpr ⟨other, member, same⟩)
      by_cases found : first.object = handle.object
      · rw [List.eraseP_cons_of_pos (by simpa using found), List.mem_cons, ← found]
        constructor
        · intro member
          exact ⟨.inr member, apart member⟩
        · rintro ⟨rfl | member, differs⟩
          · exact absurd rfl differs
          · exact member
      · rw [List.eraseP_cons_of_neg (by simpa using found), List.mem_cons, List.mem_cons,
          inductionHypothesis once, or_and_right]
        refine or_congr_left ⟨fun same => ⟨same, ?_⟩, And.left⟩
        rw [same]
        exact found

/-- A handle that was once registered and is taken out is not registered. -/
theorem not_registered_removePushHandle (once : (manager.pushHandles.map (·.object)).Nodup) :
    ¬(manager.removePushHandle handle).Registered handle.object := by
  rintro ⟨other, member, same⟩
  exact ((mem_removePushHandle once other).mp member).2 same

/-- The keys after a handle is taken out. -/
theorem mem_keys_removePushHandle (key : String) :
    key ∈ (manager.removePushHandle handle).pushHandleKeys ↔
      key ∈ manager.pushHandleKeys ∧ key ≠ handle.cmdKey := by
  simp [removePushHandle]

/-- `HandleResponse` goes by the keys. -/
theorem posts_iff {stanza : Stanza} {cmd : String} (isResponse : stanza.stanzaType = .resStanzaEvent)
    (isCmd : (stanza.resJson .null).cmd = some cmd) :
    (manager.handleMessage 0 stanza).any (·.posts) = true ↔ cmd ∈ manager.pushHandleKeys := by
  simp [handleMessage, isResponse, isCmd]

end PushManagerTask

/-! ## Runs -/

section

variable {cmdKey : Nat → String} {watched next : PushManagerTask × Option RegistryCall}
  {call : RegistryCall} {emitted : List Empty}

/-- Which call a step makes. -/
theorem registryMachine_step (transition : (registryMachine cmdKey).step watched call =
      some (next, emitted)) :
    call.handle.cmdKey = cmdKey call.handle.object ∧ next.2 = some call ∧
      next.1 = watched.1.execute call := by
  obtain ⟨stepped, isLast⟩ := Machine.step_of_watch transition
  simp only [PushManagerTask.registryStep] at stepped
  split at stepped
  · next isKey =>
      injection stepped with same
      injection same with isNext _
      exact ⟨isKey, isLast, isNext.symm⟩
  · cases stepped

/-- All that the containers need is that the keys agree and every handle is there once. -/
theorem Represents.of_keys (keys : ∀ key, key ∈ watched.1.pushHandleKeys ↔
      ∃ handle ∈ watched.1.pushHandles, handle.cmdKey = key)
    (once : (watched.1.pushHandles.map (·.object)).Nodup)
    (removed : ∀ handle, watched.2 = some (.removePushHandle handle) →
      ¬watched.1.Registered handle.object) : Represents watched where
  keys := keys
  once := once
  removed := removed
  forwards stanza cmd isResponse isCmd := by
    rw [PushManagerTask.posts_iff isResponse isCmd, keys]

/-- Every registered handle has the key of its object. -/
def Keyed (cmdKey : Nat → String) (watched : PushManagerTask × Option RegistryCall) : Prop :=
  ∀ handle ∈ watched.1.pushHandles, handle.cmdKey = cmdKey handle.object

/-- Without handles there are no keys. -/
theorem Keyed.new (cmdKey : Nat → String) (taskId : UInt32) : Keyed cmdKey (.new taskId, none) := by
  simp [Keyed, PushManagerTask.new]

/-- A call keeps the handles under their keys. -/
theorem Keyed.step (keyed : Keyed cmdKey watched)
    (transition : (registryMachine cmdKey).step watched call = some (next, emitted)) :
    Keyed cmdKey next := by
  obtain ⟨isKey, _, isNext⟩ := registryMachine_step transition
  intro handle member
  rw [isNext] at member
  cases call with
  | addPushHandle added =>
      rcases List.mem_append.mp member with known | new
      · exact keyed handle known
      · rw [List.mem_singleton.mp new]
        exact isKey
  | removePushHandle removed => exact keyed handle (List.mem_of_mem_eraseP member)

/-- From containers that agree, a call leads to ones that agree exactly when it meets the
condition. -/
theorem represents_step_iff (keyed : Keyed cmdKey watched) (before : Represents watched)
    (transition : (registryMachine cmdKey).step watched call = some (next, emitted)) :
    Represents next ↔ RegistersOnce watched call := by
  obtain ⟨isKey, isLast, isNext⟩ := registryMachine_step transition
  obtain ⟨manager, last⟩ := next
  simp only at isLast isNext
  subst isLast isNext
  cases call with
  | addPushHandle handle =>
      constructor
      · intro represents
        exact (PushManagerTask.once_addPushHandle_iff before.once).mp represents.once
      · intro new
        refine .of_keys (fun key => ?_)
          ((PushManagerTask.once_addPushHandle_iff before.once).mpr new) nofun
        simp only [PushManagerTask.execute]
        rw [PushManagerTask.mem_keys_addPushHandle, before.keys]
        simp [PushManagerTask.addPushHandle, or_and_right, exists_or, eq_comm]
  | removePushHandle handle =>
      constructor
      · intro represents other member differs same
        have kept := (PushManagerTask.mem_removePushHandle before.once other).mpr ⟨member, differs⟩
        have known := (represents.keys handle.cmdKey).mpr ⟨other, kept, same⟩
        exact ((PushManagerTask.mem_keys_removePushHandle handle.cmdKey).mp known).2 rfl
      · intro free
        refine .of_keys (fun key => ?_) ?_ ?_
        · simp only [PushManagerTask.execute, PushManagerTask.mem_keys_removePushHandle, before.keys,
            PushManagerTask.mem_removePushHandle before.once]
          constructor
          · rintro ⟨⟨other, member, rfl⟩, differs⟩
            refine ⟨other, ⟨member, fun same => differs ?_⟩, rfl⟩
            rw [keyed other member, same]
            exact isKey.symm
          · rintro ⟨other, ⟨member, differs⟩, rfl⟩
            exact ⟨⟨other, member, rfl⟩, free other member differs⟩
        · exact before.once.sublist (List.eraseP_sublist.map _)
        · rintro _ ⟨⟩
          exact PushManagerTask.not_registered_removePushHandle before.once

end

/-- The containers agree throughout a run of calls exactly when no call adds a handle that is
registered or removes one whose key another handle has. -/
theorem registry_represents_iff (cmdKey : Nat → String) {taskId : UInt32}
    {calls : List RegistryCall} {final : PushManagerTask × Option RegistryCall}
    {outputs : List Empty}
    (run : (registryMachine cmdKey).Run (.new taskId, none) calls final outputs) :
    (registryMachine cmdKey).Throughout Represents (.new taskId, none) calls final outputs ↔
      (registryMachine cmdKey).RunWhere RegistersOnce (.new taskId, none) calls final outputs := by
  have only : ∀ call ∈ calls, (fun _ : RegistryCall => True) call := fun _ _ => trivial
  refine Machine.RunWhere.throughout_iff Represents ?_ ?_ run only
  · exact .of_keys (by simp [PushManagerTask.new]) .nil nofun
  · intro _ watched _ call next _ prior represents _ transition
    have keyed : Keyed cmdKey watched :=
      prior.invariant (fun _ watched _ => Keyed cmdKey watched) (.new cmdKey taskId)
        fun keyed _ stepped => keyed.step stepped
    exact represents_step_iff keyed represents transition

/-- The keys of a plate handle and of serial handles. -/
def twoKeys (object : Nat) : String := if object = 1 then "ivs_result" else "ttransmission"

/-- Two handles with different keys are registered, and the first is taken away again. -/
def comesAndGoes : List RegistryCall :=
  [.addPushHandle plateHandle, .addPushHandle ⟨2, .serial, "ttransmission", 0⟩,
    .removePushHandle plateHandle]

/-- Handles of two keys come and go, and the keys represent them. -/
theorem registry_represents_apart :
    ∃ final outputs, (registryMachine twoKeys).Run (.new 2, none) comesAndGoes final outputs ∧
      final.1.pushHandleKeys = ["ttransmission"] ∧
      (registryMachine twoKeys).Throughout Represents (.new 2, none) comesAndGoes final outputs := by
  have permitted : (registryMachine twoKeys).permits
      (fun watched call => decide (RegistersOnce watched call)) (.new 2, none) comesAndGoes =
        true := by decide +kernel
  have checked : ((registryMachine twoKeys).exec (.new 2, none) comesAndGoes).any (fun result =>
      result.1.1.pushHandleKeys = ["ttransmission"]) = true := by decide +kernel
  obtain ⟨final, outputs, run, isKeys⟩ :=
    Machine.exists_runWhere_of_exec (fun _ _ => of_decide_eq_true) permitted checked
  exact ⟨final, outputs, run.run, by simpa using isKeys,
    (registry_represents_iff twoKeys run.run).mpr run⟩

/-- `SetReciveIvsResultCallback` on an open device registers its handle twice. -/
theorem ivsHandle_registered_twice :
    ∃ final outputs,
      (registryMachine fun _ => "ivs_result").Run (.new 2, none)
        (setReciveIvsResultCallback 2 plateHandle) final outputs ∧
      final.1.pushHandles = [plateHandle, plateHandle] ∧
      ¬(registryMachine fun _ => "ivs_result").Throughout Represents (.new 2, none)
        (setReciveIvsResultCallback 2 plateHandle) final outputs := by
  refine ⟨_, _, Machine.run_of_exec rfl, rfl, ?_⟩
  rintro ⟨_, represents⟩
  exact absurd represents.once (by decide)

end VzSdk.Sdk
