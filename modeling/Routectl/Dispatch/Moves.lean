import Routectl.Dispatch.ErrorArm

/-! What one step of the walk can do, for every surface, session and label. -/
namespace Routectl.Dispatch
open Library Routectl.Gate

/-- No half-open bit is set that was not set before, the claimed one apart. -/
def OnlyClaims (key : String) (claimed : Bool) (before after : KeyedMap String ProviderState) :
    Prop :=
  ∀ other state, after.lookup other = some state → state.halfOpenInFlight = true →
    (other = key ∧ claimed = true) ∨
      ∃ earlier, before.lookup other = some earlier ∧ earlier.halfOpenInFlight = true

/-- The walk after the gate of its entry was consulted. -/
def Walk.noteConsulted (walk : Walk) (entry : Entry) (gates : KeyedMap String ProviderState)
    (claimed : Bool) : Walk :=
  { walk with gates, trace := .consulted entry.target.stateKey claimed :: walk.trace }

/-- The walk at the head of the chain loop, one entry further. -/
def Walk.noteEntered (walk : Walk) (later : List DispatchTarget) : Walk :=
  { walk with rest := later, trace := .entered :: walk.trace }

/-- The walk that passes over an entry it did not dispatch to. -/
def Walk.noteSkipped (walk : Walk) (error : Error) : Walk :=
  { walk with lastErr := some error }.note (.skipped error)

def Entry.counted (entry : Entry) : Entry := { entry with attemptsMade := entry.attemptsMade + 1 }

inductive Moves (surface : Surface) (session : Session) (walk : Walk) (label : Label) :
    Walk → Prop where
  | exhausted (between : walk.phase = .between) (last : walk.rest = []) :
      Moves surface session walk label (walk.exhaust session)
  | skipped {target : DispatchTarget} {later : List DispatchTarget} (error : Error)
      (between : walk.phase = .between) (next : walk.rest = target :: later) :
      Moves surface session walk label (((walk.noteEntered later).noteSkipped error).passOn session)
  | rejected {target : DispatchTarget} {later : List DispatchTarget} (error : Error)
      (between : walk.phase = .between) (next : walk.rest = target :: later) :
      Moves surface session walk label ((walk.noteEntered later).finish (.failed error))
  | prepared {target : DispatchTarget} {later : List DispatchTarget} (preparation : Preparation)
      (between : walk.phase = .between) (next : walk.rest = target :: later) :
      Moves surface session walk label
        { walk.noteEntered later with phase := .inside (.new target preparation) .gating }
  | refused {entry : Entry} {gates : KeyedMap String ProviderState} (body : String)
      (gating : walk.phase = .inside entry .gating)
      (bits : OnlyClaims entry.target.stateKey false walk.gates gates) :
      Moves surface session walk label
        (refused session (walk.noteConsulted entry gates false) entry body)
  | admitted {entry : Entry} {gates : KeyedMap String ProviderState} {claimed halfOpen : Bool}
      (gating : walk.phase = .inside entry .gating)
      (bits : OnlyClaims entry.target.stateKey claimed walk.gates gates)
      (guarded : claimed = true → halfOpen = true) :
      Moves surface session walk label
        (admitted surface (walk.noteConsulted entry gates claimed) entry halfOpen)
  | woken {entry : Entry} (sleeping : walk.phase = .inside entry .sleeping) :
      Moves surface session walk label (walk.call entry)
  | served {entry : Entry} {settled : Walk} (calling : walk.phase = .inside entry .calling)
      (settles : Settled entry.target.stateKey walk settled) :
      Moves surface session walk label (settled.finish .served)
  | servedUnprobed {entry : Entry} (calling : walk.phase = .inside entry .calling)
      (unprobed : entry.wasHalfOpenProbe = false) :
      Moves surface session walk label (walk.finish .served)
  | errored {entry : Entry} {error : Error} {next : Walk}
      (calling : walk.phase = .inside entry .calling)
      (arm : ErrorArm session surface walk entry.counted error next) :
      Moves surface session walk label next
  | refreshed {entry : Entry} {error : Error}
      (refreshing : walk.phase = .inside entry (.refreshing error)) :
      Moves surface session walk label
        ((walk.releaseProbeSlot entry.target.stateKey).regate entry error)
  | refreshDied {entry : Entry} {error : Error} (refusal : Error)
      (refreshing : walk.phase = .inside entry (.refreshing error)) :
      Moves surface session walk label
        ((walk.releaseProbeSlot entry.target.stateKey).finish (.failed refusal))
  | dropped {entry : Entry} {point : Point} (inside : walk.phase = .inside entry point)
      (suspended : point ≠ .gating) : Moves surface session walk label (cancelled walk entry)
  | others {key : String} {change : ProviderState → ProviderState}
      (theirs : label = .others key change) :
      Moves surface session walk label { walk with gates := KeyedMap.modify key change walk.gates }

section Steps
variable {surface : Surface} {session : Session} {walk : Walk} {label : Label}

theorem enter_moves (preparation : Preparation) (between : walk.phase = .between) :
    Moves surface session walk label (enter session walk preparation) := by
  unfold enter
  cases next : walk.rest with
  | nil => exact .exhausted between next
  | cons target later =>
    dsimp only
    split
    · exact .skipped _ between next
    · split
      · exact .rejected _ between next
      · cases preparation.strip with
        | proceed => exact .prepared preparation between next
        | strictReject error => exact .rejected error between next
        | routeAway error => exact .skipped error between next

/-- Consulting a gate sets no bit but the one it claims. -/
theorem onlyClaims_admission {gates : KeyedMap String ProviderState} {key : String}
    {state : ProviderState} (found : gates.lookup key = some state) (now : Nat) :
    OnlyClaims key (state.tryDispatchAdmitting now).2.claimedHalfOpen gates
      (gates.insert key (state.tryDispatchAdmitting now).1) := by
  intro other met lookup claimed
  by_cases same : other = key
  · subst same
    rw [AList.lookup_insert, Option.some_inj] at lookup
    subst lookup
    rcases state.tryDispatchInner_cases now .clientDispatch with claims | keeps
    · left
      exact ⟨rfl, by rw [ProviderState.tryDispatchAdmitting, claims.1]⟩
    · right
      exact ⟨state, found, keeps.2 ▸ claimed⟩
  · rw [AList.lookup_insert_ne same] at lookup
    exact .inr ⟨met, lookup, claimed⟩

theorem refusal_unclaimed {state : ProviderState} {now : Nat}
    (refusal : (state.tryDispatchAdmitting now).2.decision ≠ .allow) :
    (state.tryDispatchAdmitting now).2.claimedHalfOpen = false := by
  rcases state.tryDispatchInner_cases now .clientDispatch with claims | keeps
  · exact absurd (congrArg GateAdmission.decision claims.1) refusal
  · exact keeps.1

theorem gate_moves {entry : Entry} (now : Nat) (gating : walk.phase = .inside entry .gating) :
    Moves surface session walk label (gate session surface walk entry now) := by
  unfold gate
  dsimp only
  cases found : walk.gates.lookup entry.target.stateKey with
  | none =>
    have same : OnlyClaims entry.target.stateKey false walk.gates walk.gates :=
      fun other state lookup claimed => .inr ⟨state, lookup, claimed⟩
    exact .admitted gating same nofun
  | some state =>
    have bits := onlyClaims_admission found now
    have kinds := state.tryDispatchInner_cases now .clientDispatch
    dsimp only
    cases decision : (state.tryDispatchAdmitting now).2.decision with
    | allow =>
      apply Moves.admitted gating bits
      intro claims
      rcases kinds with claimed | kept
      · exact claimed.2.2
      · exact absurd (kept.1.symm.trans claims) Bool.false_ne_true
    | rateLimited =>
      rw [refusal_unclaimed (decision ▸ nofun)] at bits ⊢
      exact .refused _ gating bits
    | circuitOpen =>
      rw [refusal_unclaimed (decision ▸ nofun)] at bits ⊢
      exact .refused _ gating bits

theorem replied_moves {entry : Entry} (now : Nat) (reply : Reply)
    (calling : walk.phase = .inside entry .calling) :
    Moves surface session walk label (replied session walk entry surface now reply) := by
  cases reply with
  | failed error facts =>
    exact .errored calling (errorArm_cases session surface walk entry.counted now error facts)
  | ok =>
    have succeeded : Settled entry.target.stateKey walk
        (walk.settle entry.target.stateKey fun state => state.recordSuccess now) :=
      .once _ fun _ => rfl
    cases surface with
    | complete => exact .served calling succeeded
    | stream =>
      show Moves _ _ _ _ (if entry.wasHalfOpenProbe then _ else _)
      split
      · exact .served calling succeeded
      · rename_i unprobed
        exact .servedUnprobed calling (Bool.not_eq_true _ ▸ unprobed)

/-- Every step is one of the moves. -/
theorem step_moves {next : Walk}
    (taken : step surface session walk label = some next) :
    Moves surface session walk label next := by
  unfold step at taken
  split at taken
  · rename_i preparation between
    exact Option.some.inj taken ▸ enter_moves preparation between
  · rename_i entry now gating
    exact Option.some.inj taken ▸ gate_moves now gating
  · rename_i entry sleeping
    exact Option.some.inj taken ▸ .woken sleeping
  · rename_i entry now reply calling
    exact Option.some.inj taken ▸ replied_moves now reply calling
  · rename_i entry error refusal refreshing
    rw [← Option.some.inj taken]
    cases refusal with
    | none => exact .refreshed refreshing
    | some refusal => exact .refreshDied refusal refreshing
  · rename_i entry sleeping
    exact Option.some.inj taken ▸ .dropped sleeping nofun
  · rename_i entry calling
    exact Option.some.inj taken ▸ .dropped calling nofun
  · rename_i entry error refreshing
    exact Option.some.inj taken ▸ .dropped refreshing nofun
  · exact Option.some.inj taken ▸ .others rfl
  · contradiction

end Steps
end Routectl.Dispatch
