import Routectl.ResponsesApi.Serialization

/-! What the reader makes of a stream: each event gives the chunk of its own item, whatever
other items are open beside it. -/
namespace Routectl.ResponsesApi
open Library Schema

section Room
variable {events : List ResponsesStreamEvent} {event : ResponsesStreamEvent} {index : Nat}

theorem heldAfter_snoc (events : List ResponsesStreamEvent) (event : ResponsesStreamEvent) :
    heldAfter (events ++ [event]) = (heldAfter events).hear event := by
  simp [heldAfter, List.foldl_append]

theorem hear_elsewhere {held : Held} (other : event.kind ≠ itemAdded) (later : event.kind ≠ itemDone) :
    held.hear event = held := by
  unfold Held.hear
  split
  case h_1 => rfl
  case h_2 => rw [if_neg other, if_neg later]

theorem hear_taken (held : Held) (event : ResponsesStreamEvent) :
    (held.hear event).taken = held.taken ∨
      ∃ index, event.outputIndex = some index ∧ event.kind = itemAdded ∧
        (held.hear event).taken = held.taken ++ [index] ∧
        (held.hear event).live = held.live ++ [index] := by
  unfold Held.hear
  cases event.outputIndex with
  | none => exact .inl rfl
  | some index =>
    dsimp only
    split
    case isTrue added =>
      split
      case isTrue => exact .inl rfl
      case isFalse => exact .inr ⟨index, rfl, added, rfl, rfl⟩
    case isFalse => split <;> exact .inl rfl

/-- Taking goes on only. -/
theorem takenOf_append (events more : List ResponsesStreamEvent) :
    takenOf events <+: takenOf (events ++ more) := by
  induction more using List.reverseRecOn with
  | nil => simp
  | append_singleton more event ih =>
    rw [← List.append_assoc]
    refine ih.trans ?_
    unfold takenOf
    rw [heldAfter_snoc]
    rcases hear_taken (heldAfter (events ++ more)) event with same | ⟨index, _, _, taken, _⟩
    · rw [same]
    · rw [taken]
      exact List.prefix_append _ _

/-- An item that is taken was added. -/
theorem added_of_taken (taken : index ∈ takenOf events) :
    ∃ event ∈ events, event.kind = itemAdded ∧ event.outputIndex = some index := by
  induction events using List.reverseRecOn with
  | nil => cases taken
  | append_singleton events event ih =>
    unfold takenOf at taken
    rw [heldAfter_snoc] at taken
    rcases hear_taken (heldAfter events) event with same | ⟨added, at_, kind, grown, _⟩
    · rw [same] at taken
      obtain ⟨earlier, member, rest⟩ := ih taken
      exact ⟨earlier, List.mem_append_left _ member, rest⟩
    · rw [grown] at taken
      rcases List.mem_append.mp taken with older | newest
      · obtain ⟨earlier, member, rest⟩ := ih older
        exact ⟨earlier, List.mem_append_left _ member, rest⟩
      · obtain rfl := List.mem_singleton.mp newest
        exact ⟨event, by simp, kind, at_⟩

/-- An item taken later and not added later was taken already. -/
theorem taken_of_append {more : List ResponsesStreamEvent} (taken : index ∈ takenOf (events ++ more))
    (none : ∀ event ∈ more, event.kind = itemAdded → event.outputIndex ≠ some index) :
    index ∈ takenOf events := by
  induction more using List.reverseRecOn with
  | nil => simpa using taken
  | append_singleton more event ih =>
    apply ih
    · rw [← List.append_assoc] at taken
      unfold takenOf at taken ⊢
      rw [heldAfter_snoc] at taken
      rcases hear_taken (heldAfter (events ++ more)) event with same | ⟨added, at_, kind, grown, _⟩
      · rwa [same] at taken
      · rw [grown] at taken
        rcases List.mem_append.mp taken with older | newest
        · exact older
        · obtain rfl := List.mem_singleton.mp newest
          exact absurd at_ (none event (by simp) kind)
    · exact fun event member => none event (List.mem_append_left _ member)

theorem hear_live (held : Held) (event : ResponsesStreamEvent) (done : event.kind = itemDone →
    event.outputIndex ≠ some index) (live : index ∈ held.live) : index ∈ (held.hear event).live := by
  unfold Held.hear
  cases at_ : event.outputIndex with
  | none => exact live
  | some other =>
    dsimp only
    split
    case isTrue =>
      split
      case isTrue => exact live
      case isFalse => exact List.mem_append_left _ live
    case isFalse =>
      split
      case isTrue kind =>
        have different : index ≠ other := fun same => done kind (by rw [at_, same])
        exact (List.mem_erase_of_ne different).mpr live
      case isFalse => exact live

/-- An item that was taken and is not done is open. -/
theorem live_of_taken (taken : index ∈ takenOf events)
    (none : ∀ event ∈ events, event.kind = itemDone → event.outputIndex ≠ some index) :
    index ∈ (heldAfter events).live := by
  induction events using List.reverseRecOn with
  | nil => cases taken
  | append_singleton events event ih =>
    unfold takenOf at taken
    rw [heldAfter_snoc] at taken ⊢
    have last := none event (by simp)
    have before : ∀ earlier ∈ events, earlier.kind = itemDone → earlier.outputIndex ≠ some index :=
      fun earlier member => none earlier (List.mem_append_left _ member)
    rcases hear_taken (heldAfter events) event with same | ⟨added, _, _, grown, opened⟩
    · rw [same] at taken
      exact hear_live _ event last (ih taken before)
    · rw [grown] at taken
      rcases List.mem_append.mp taken with older | newest
      · exact hear_live _ event last (ih older before)
      · rw [opened]
        exact List.mem_append_right _ newest

theorem live_taken (events : List ResponsesStreamEvent) :
    ∀ index ∈ (heldAfter events).live, index ∈ takenOf events := by
  intro index live
  induction events using List.reverseRecOn with
  | nil => cases live
  | append_singleton events event ih =>
    unfold takenOf
    rw [heldAfter_snoc] at live ⊢
    unfold Held.hear at live ⊢
    cases at_ : event.outputIndex with
    | none =>
      rw [at_] at live
      exact ih live
    | some added =>
      rw [at_] at live
      dsimp only at live ⊢
      split
      case isTrue kind =>
        rw [if_pos kind] at live
        split
        case isTrue full =>
          rw [if_pos full] at live
          exact ih live
        case isFalse room =>
          rw [if_neg room] at live
          rcases List.mem_append.mp live with older | newest
          · exact List.mem_append_left _ (ih older)
          · exact List.mem_append_right _ newest
      case isFalse kind =>
        rw [if_neg kind] at live
        split
        case isTrue done =>
          rw [if_pos done] at live
          exact ih (List.mem_of_mem_erase live)
        case isFalse done =>
          rw [if_neg done] at live
          exact ih live

end Room

section Roles
variable {item : ResponseOutputItem} {event : ResponsesStreamEvent} {index : Nat}
variable {middle seen rest : List ResponsesStreamEvent}

theorem starts_kind (starts : Starts item event) : event.kind ≠ itemDone := by
  rw [starts.1]
  decide

theorem ends_kind (ends : Ends item event) : event.kind ≠ itemAdded := by
  rw [ends.1]
  decide

theorem speaks_kind (speaks : Speaks item event) :
    event.kind ≠ itemAdded ∧ event.kind ≠ itemDone := by
  obtain ⟨_, kind⟩ := speaks
  cases item with
  | message content =>
    rw [kind]
    decide
  | reasoning id summary content encryptedContent =>
    rcases kind with kind | kind <;> rw [kind] <;> decide
  | functionCall callId name arguments =>
    rw [kind]
    decide
  | other raw => cases kind

/-- The part an event has in its item, with what came before it and what comes after. -/
inductive Role (item : ResponseOutputItem) (before : List ResponsesStreamEvent)
    (event : ResponsesStreamEvent) (after : List ResponsesStreamEvent) : Prop
  | starts (starts : Starts item event) (fresh : before = [])
      (once : ∀ later ∈ after, later.kind ≠ itemAdded)
  | goesOn (goesOn : Speaks item event ∨ Ends item event)
      (added : ∃ first ∈ before, Starts item first)
      (open_ : ∀ earlier ∈ before, earlier.kind ≠ itemDone)
      (once : ∀ later ∈ after, later.kind ≠ itemAdded)

theorem role_of_written {before after : List ResponsesStreamEvent}
    (written : Written item (before ++ event :: after)) : Role item before event after := by
  obtain ⟨first, deltas, last, bracketed, starts, speaks, ends⟩ := written.bracketed
  have inner : ∀ later ∈ deltas ++ [last], later.kind ≠ itemAdded := by
    intro later member
    rcases List.mem_append.mp member with delta | final
    · exact (speaks_kind (speaks later delta)).1
    · rw [List.mem_singleton.mp final]
      exact ends_kind ends
  cases before with
  | nil =>
    obtain ⟨rfl, rfl⟩ := List.cons.inj bracketed
    exact .starts starts rfl inner
  | cons opening more =>
    obtain ⟨rfl, tail⟩ := List.cons.inj bracketed
    have kinds (held : ∀ delta ∈ more, delta ∈ deltas) :
        ∀ earlier ∈ opening :: more, earlier.kind ≠ itemDone := by
      intro earlier member
      rcases List.mem_cons.mp member with rfl | delta
      · exact starts_kind starts
      · exact (speaks_kind (speaks earlier (held earlier delta))).2
    have once : ∀ later ∈ after, later.kind ≠ itemAdded := by
      intro later member
      apply inner
      rw [← tail]
      exact List.mem_append_right _ (List.mem_cons_of_mem _ member)
    rcases List.append_eq_append_iff.mp tail with ⟨gap, within, onward⟩ | ⟨gap, within, onward⟩
    · have held : ∀ delta ∈ more, delta ∈ deltas := fun delta member => by
        rw [within]
        exact List.mem_append_left _ member
      cases gap with
      | nil =>
        obtain ⟨rfl, _⟩ := List.cons.inj onward
        exact .goesOn (.inr ends) ⟨opening, List.mem_cons_self .., starts⟩ (kinds held) once
      | cons delta gap =>
        obtain ⟨rfl, _⟩ := List.cons.inj onward
        have spoken : event ∈ deltas := by
          rw [within]
          exact List.mem_append_right _ (List.mem_cons_self ..)
        exact .goesOn (.inl (speaks event spoken)) ⟨opening, List.mem_cons_self .., starts⟩
          (kinds held) once
    · cases gap with
      | nil =>
        obtain ⟨rfl, _⟩ := List.cons.inj onward
        have held : ∀ delta ∈ more, delta ∈ deltas := fun delta member => by
          rw [within, List.append_nil] at member
          exact member
        exact .goesOn (.inr ends) ⟨opening, List.mem_cons_self .., starts⟩ (kinds held) once
      | cons delta gap =>
        have empty := (List.cons.inj onward).2
        simp at empty

theorem eventsAt_append (index : Nat) (events more : List ResponsesStreamEvent) :
    eventsAt index (events ++ more) = eventsAt index events ++ eventsAt index more := by
  simp [eventsAt]

theorem mem_eventsAt {events : List ResponsesStreamEvent} :
    event ∈ eventsAt index events ↔
      event ∈ events ∧ ¬ idle event.kind ∧ event.outputIndex = some index := by
  simp [eventsAt]

theorem busy_added (kind : event.kind = itemAdded) : ¬ idle event.kind :=
  fun idle => idle.2.1 kind

theorem busy_done (kind : event.kind = itemDone) : ¬ idle event.kind :=
  fun idle => idle.2.2.1 kind

theorem role_of_split (written : Written item (eventsAt index (seen ++ event :: rest)))
    (busy : ¬ idle event.kind) (at_ : event.outputIndex = some index) :
    Role item (eventsAt index seen) event (eventsAt index rest) := by
  have split : eventsAt index (seen ++ event :: rest) =
      eventsAt index seen ++ event :: eventsAt index rest := by
    rw [eventsAt_append]
    congr 1
    exact List.filter_cons_of_pos (by simpa using ⟨busy, at_⟩)
  rw [split] at written
  exact role_of_written written

/-- An item that starts is new, and one that goes on is open exactly where it is taken in
the end. -/
theorem fresh_of_starts (fresh : eventsAt index seen = []) : index ∉ takenOf seen := by
  intro taken
  obtain ⟨earlier, member, kind, at_⟩ := added_of_taken taken
  have held : earlier ∈ eventsAt index seen := mem_eventsAt.mpr ⟨member, busy_added kind, at_⟩
  rw [fresh] at held
  cases held

theorem live_iff_taken (goesOn : event.kind ≠ itemAdded)
    (open_ : ∀ earlier ∈ eventsAt index seen, earlier.kind ≠ itemDone)
    (once : ∀ later ∈ eventsAt index rest, later.kind ≠ itemAdded) :
    index ∈ (heldAfter seen).live ↔ index ∈ takenOf (seen ++ event :: rest) := by
  constructor
  · intro live
    exact (takenOf_append seen (event :: rest)).mem (live_taken seen index live)
  · intro taken
    apply live_of_taken
    · apply taken_of_append taken
      intro later member kind at_
      rcases List.mem_cons.mp member with rfl | after
      · exact goesOn kind
      · exact once later (mem_eventsAt.mpr ⟨after, busy_added kind, at_⟩) kind
    · intro earlier member kind at_
      exact open_ earlier (mem_eventsAt.mpr ⟨member, busy_done kind, at_⟩) kind

end Roles
end Routectl.ResponsesApi
