import Routectl.Trim.SteadyState

/-! A growing conversation keeps its trim: the scan reads the front, so the first
plan's marks and span are every later plan's. -/
namespace Routectl.Trim
open Library

def Scan.marks : Scan → List ElisionMark
  | .reached marks => marks
  | .scanning marks _ => marks

section Scanning
variable {clearAtLeast messageIndex partIndex freed : Nat} {marks found : List ElisionMark}

/-- A scan that reached the floor reads nothing further. -/
theorem scanMessages_append {messages : List Message} (more : List Message)
    (reached : scanMessages clearAtLeast messages messageIndex marks freed = some found) :
    scanMessages clearAtLeast (messages ++ more) messageIndex marks freed = some found := by
  induction messages generalizing messageIndex marks freed with
  | nil => cases reached
  | cons message rest ih =>
    simp only [List.cons_append, scanMessages] at reached ⊢
    cases content : message.content with
    | text body =>
      rw [content] at reached
      exact ih reached
    | null =>
      rw [content] at reached
      exact ih reached
    | parts parts =>
      rw [content] at reached
      dsimp only at reached ⊢
      cases scanned : scanParts clearAtLeast messageIndex parts 0 marks freed with
      | reached stopped =>
        rw [scanned] at reached
        exact reached
      | scanning marked total =>
        rw [scanned] at reached
        exact ih reached

theorem scanParts_marks (parts : List ContentPart) :
    ∀ mark ∈ (scanParts clearAtLeast messageIndex parts partIndex marks freed).marks,
      mark ∈ marks ∨ mark.messageIndex = messageIndex := by
  induction parts generalizing partIndex marks freed with
  | nil => exact fun mark member => .inl member
  | cons part rest ih =>
    unfold scanParts
    cases elidablePartTokens part with
    | none => exact ih
    | some tokens =>
      have own (mark : ElisionMark) (member : mark ∈ marks ++ [⟨messageIndex, partIndex, tokens, none⟩]) :
          mark ∈ marks ∨ mark.messageIndex = messageIndex := by
        rcases List.mem_append.mp member with before | last
        · exact .inl before
        · right
          rw [List.mem_singleton.mp last]
      dsimp only
      split
      · exact own
      · intro mark member
        rcases ih mark member with before | same
        · exact own mark before
        · exact .inr same

/-- Every mark addresses a message of the window. -/
theorem scanMessages_inside {messages : List Message}
    (reached : scanMessages clearAtLeast messages messageIndex marks freed = some found) :
    ∀ mark ∈ found, mark ∈ marks ∨
      (messageIndex ≤ mark.messageIndex ∧ mark.messageIndex < messageIndex + messages.length) := by
  induction messages generalizing messageIndex marks freed with
  | nil => cases reached
  | cons message rest ih =>
    have later {marked : List ElisionMark} {total : Nat}
        (onward : scanMessages clearAtLeast rest (messageIndex + 1) marked total = some found)
        (mark : ElisionMark) (member : mark ∈ found) : mark ∈ marked ∨
          (messageIndex ≤ mark.messageIndex ∧
            mark.messageIndex < messageIndex + (message :: rest).length) := by
      rcases ih onward mark member with before | inside
      · exact .inl before
      · right
        rw [List.length_cons]
        omega
    simp only [scanMessages] at reached
    cases content : message.content with
    | text body =>
      rw [content] at reached
      exact later reached
    | null =>
      rw [content] at reached
      exact later reached
    | parts parts =>
      rw [content] at reached
      dsimp only at reached
      have own : ∀ mark ∈ (scanParts clearAtLeast messageIndex parts 0 marks freed).marks,
          mark ∈ marks ∨ mark.messageIndex = messageIndex := scanParts_marks parts
      have inside (mark : ElisionMark)
          (member : mark ∈ (scanParts clearAtLeast messageIndex parts 0 marks freed).marks) :
          mark ∈ marks ∨ (messageIndex ≤ mark.messageIndex ∧
            mark.messageIndex < messageIndex + (message :: rest).length) := by
        rcases own mark member with before | same
        · exact .inl before
        · right
          rw [List.length_cons]
          omega
      cases scanned : scanParts clearAtLeast messageIndex parts 0 marks freed with
      | reached stopped =>
        rw [scanned] at reached inside
        obtain rfl := Option.some.inj reached
        exact inside
      | scanning marked total =>
        rw [scanned] at reached inside
        intro mark member
        rcases later reached mark member with before | window
        · exact inside mark before
        · exact .inr window

end Scanning

section Plan
variable {request : ChatRequest} {params : SteadyStateTrimParams} {plan : SteadyStateTrimPlan}

theorem collectElisionMarks_inside {start scanEnd clearAtLeast : Nat} {marks : List ElisionMark}
    (collected : collectElisionMarks request start scanEnd clearAtLeast = some marks) :
    ∀ mark ∈ marks, start ≤ mark.messageIndex ∧ mark.messageIndex < scanEnd ∧
      mark.messageIndex < request.messages.length := by
  intro mark member
  have window := scanMessages_inside collected mark member
  simp only [List.not_mem_nil, false_or, List.length_drop, List.length_take] at window
  omega

/-- A wider window over a longer conversation collects the same marks. -/
theorem collectElisionMarks_append {start scanEnd wider clearAtLeast : Nat}
    {marks : List ElisionMark} (appended : List Message) (inside : scanEnd ≤ request.messages.length)
    (grows : scanEnd ≤ wider)
    (collected : collectElisionMarks request start scanEnd clearAtLeast = some marks) :
    collectElisionMarks (request.append appended) start wider clearAtLeast = some marks := by
  have extends_ : request.messages.take scanEnd <+: (request.messages ++ appended).take wider := by
    have same : request.messages.take scanEnd = (request.messages ++ appended).take scanEnd :=
      (List.take_append_of_le_length inside).symm
    rw [same]
    exact List.take_prefix_take_left grows
  obtain ⟨more, split⟩ := extends_
  unfold collectElisionMarks at collected ⊢
  rw [ChatRequest.messages_append, ← split]
  by_cases short : start ≤ (request.messages.take scanEnd).length
  · rw [List.drop_append_of_le_length short]
    exact scanMessages_append _ collected
  · rw [List.drop_eq_nil_of_le (Nat.le_of_not_le short)] at collected
    cases collected

/-- What a proposed plan says of its request. -/
structure Proposed (request : ChatRequest) (params : SteadyStateTrimParams)
    (plan : SteadyStateTrimPlan) : Prop where
  triggered : params.triggerTokens < estimateTotalTokens request
  recent : params.keepRecentMessages ≤ request.messages.length
  head : params.headKeepMessages < request.messages.length - params.keepRecentMessages
  collected : collectElisionMarks request params.headKeepMessages
    (request.messages.length - params.keepRecentMessages) params.clearAtLeastTokens =
      some plan.marks
  span : ∃ last, plan.marks.getLast? = some last ∧
    plan.span = ⟨params.headKeepMessages, last.messageIndex + 1⟩

theorem proposed_of_some (proposed : proposeSteadyStateTrim request params = some plan) :
    Proposed request params plan := by
  simp only [proposeSteadyStateTrim] at proposed
  split at proposed
  · cases proposed
  · rename_i triggered
    split at proposed
    · cases proposed
    · rename_i recent
      split at proposed
      · cases proposed
      · rename_i head
        simp only [Option.bind_eq_bind, Option.bind_eq_some_iff, Option.some.injEq] at proposed
        obtain ⟨marks, collected, last, final, cAfter, -, rfl⟩ := proposed
        exact
          { triggered := Nat.not_le.mp triggered
            recent := Nat.not_lt.mp recent
            head := Nat.not_le.mp head
            collected
            span := ⟨last, final, rfl⟩ }

theorem cAfterFromFirstMark_isSome (request : ChatRequest) {marks : List ElisionMark}
    (marked : marks ≠ []) : ∃ cAfter, cAfterFromFirstMark request marks = some cAfter := by
  cases marks with
  | nil => exact absurd rfl marked
  | cons mark rest => simp [cAfterFromFirstMark, List.min?]

/-- The same marks and span are proposed again for every longer conversation. -/
theorem Proposed.append (proposed : Proposed request params plan) (appended : List Message) :
    ∃ grown, proposeSteadyStateTrim (request.append appended) params = some grown ∧
      grown.span = plan.span ∧ grown.marks = plan.marks := by
  obtain ⟨last, final, span⟩ := proposed.span
  have marked : plan.marks ≠ [] := by
    intro none
    rw [none] at final
    cases final
  obtain ⟨cAfter, priced⟩ := cAfterFromFirstMark_isSome (request.append appended) marked
  have length : (request.append appended).messages.length =
      request.messages.length + appended.length := by simp
  have recent := proposed.recent
  have head := proposed.head
  have triggered : params.triggerTokens < estimateTotalTokens (request.append appended) :=
    Nat.lt_of_lt_of_le proposed.triggered
      (Nat.div_le_div_right (request.byteLength_append appended))
  have collected := collectElisionMarks_append appended (by omega)
    (by omega : request.messages.length - params.keepRecentMessages ≤
      (request.append appended).messages.length - params.keepRecentMessages) proposed.collected
  unfold proposeSteadyStateTrim
  dsimp only
  rw [if_neg (Nat.not_le.mpr triggered), if_neg (by omega), if_neg (by omega), collected]
  simp only [Option.bind_eq_bind, Option.bind_some, final, priced]
  exact ⟨_, rfl, span.symm, rfl⟩

theorem length_applyMark (messages : List Message) (mark : ElisionMark) :
    (applyMark messages mark).length = messages.length := by
  unfold applyMark
  split
  · rfl
  · split
    · split
      · rfl
      · exact List.length_set
    · rfl

/-- A mark on an early message leaves appended messages alone. -/
theorem applyMark_append {messages : List Message} {mark : ElisionMark}
    (inside : mark.messageIndex < messages.length) (more : List Message) :
    applyMark (messages ++ more) mark = applyMark messages mark ++ more := by
  unfold applyMark
  rw [List.getElem?_append_left inside]
  split
  · rfl
  · split
    · split
      · rfl
      · exact List.set_append_left _ _ inside
    · rfl

theorem foldl_applyMark_append {messages : List Message} {marks : List ElisionMark}
    (inside : ∀ mark ∈ marks, mark.messageIndex < messages.length) (more : List Message) :
    marks.foldl applyMark (messages ++ more) = marks.foldl applyMark messages ++ more := by
  induction marks generalizing messages with
  | nil => rfl
  | cons mark rest ih =>
    have first := inside mark List.mem_cons_self
    have others : ∀ other ∈ rest, other.messageIndex < (applyMark messages mark).length := by
      intro other member
      rw [length_applyMark]
      exact inside other (List.mem_cons_of_mem mark member)
    rw [List.foldl_cons, List.foldl_cons, applyMark_append first]
    exact ih others

theorem length_foldl_applyMark (messages : List Message) (marks : List ElisionMark) :
    (marks.foldl applyMark messages).length = messages.length := by
  induction marks generalizing messages with
  | nil => rfl
  | cons mark rest ih =>
    have onward := ih (applyMark messages mark)
    rw [length_applyMark] at onward
    exact onward

/-- Trimming commutes with appending when every mark lies in the front. -/
theorem applyTrimPlan_append
    (inside : ∀ mark ∈ plan.marks, mark.messageIndex < request.messages.length)
    (appended : List Message) :
    applyTrimPlan (request.append appended) plan = (applyTrimPlan request plan).append appended := by
  unfold applyTrimPlan ChatRequest.append
  rw [foldl_applyMark_append inside]

theorem applyTrimPlan_congr {other : SteadyStateTrimPlan} (marks : other.marks = plan.marks) :
    applyTrimPlan request other = applyTrimPlan request plan := by
  unfold applyTrimPlan
  rw [marks]

/-- The fingerprint reads the covered front only. -/
theorem trimmedPrefixFingerprint_append
    (inside : ∀ mark ∈ plan.marks, mark.messageIndex < request.messages.length)
    (covered : plan.span.stop ≤ request.messages.length) (appended : List Message) :
    trimmedPrefixFingerprint (request.append appended) plan =
      trimmedPrefixFingerprint request plan := by
  have length : (applyTrimPlan request plan).messages.length = request.messages.length :=
    length_foldl_applyMark _ _
  have short : plan.span.stop ≤ (applyTrimPlan request plan).messages.length := by omega
  have long : plan.span.stop ≤ ((applyTrimPlan request plan).append appended).messages.length := by
    rw [ChatRequest.messages_append, List.length_append]
    omega
  unfold trimmedPrefixFingerprint
  rw [applyTrimPlan_append inside]
  dsimp only
  rw [if_pos long, if_pos short, ChatRequest.messages_append, List.take_append_of_le_length short]

theorem trimmedPrefixFingerprint_congr {other : SteadyStateTrimPlan} (span : other.span = plan.span)
    (marks : other.marks = plan.marks) :
    trimmedPrefixFingerprint request other = trimmedPrefixFingerprint request plan := by
  unfold trimmedPrefixFingerprint
  rw [applyTrimPlan_congr marks, span]

theorem Proposed.inside (proposed : Proposed request params plan) :
    ∀ mark ∈ plan.marks, mark.messageIndex < request.messages.length :=
  fun mark member => (collectElisionMarks_inside proposed.collected mark member).2.2

theorem Proposed.covered (proposed : Proposed request params plan) :
    plan.span.stop ≤ request.messages.length := by
  obtain ⟨last, final, span⟩ := proposed.span
  have bound := proposed.inside last (List.mem_of_getLast? final)
  rw [span]
  exact bound

/-- Once a trim is proposed, every longer conversation gets the same span, marks
and fingerprint, and its trimmed front is the earlier trimmed request. -/
theorem growth_holds_span_and_marks
    (proposed : proposeSteadyStateTrim request params = some plan) (appended : List Message) :
    ∃ grown, proposeSteadyStateTrim (request.append appended) params = some grown ∧
      grown.span = plan.span ∧ grown.marks = plan.marks ∧
      trimmedPrefixFingerprint (request.append appended) grown =
        trimmedPrefixFingerprint request plan ∧
      (applyTrimPlan (request.append appended) grown).restrict request.messages.length =
        applyTrimPlan request plan := by
  have shape := proposed_of_some proposed
  obtain ⟨grown, again, span, marks⟩ := shape.append appended
  refine ⟨grown, again, span, marks, ?_, ?_⟩
  · rw [trimmedPrefixFingerprint_congr span marks]
    exact trimmedPrefixFingerprint_append shape.inside shape.covered appended
  · have length : (applyTrimPlan request plan).messages.length = request.messages.length :=
      length_foldl_applyMark _ _
    rw [applyTrimPlan_congr marks, applyTrimPlan_append shape.inside]
    unfold ChatRequest.restrict
    rw [ChatRequest.messages_append, ← length, List.take_left]
    rfl

end Plan

/-- A short conversation whose second message carries the one old tool result. -/
def toolConversation : ChatRequest :=
  { model := "m"
    messages :=
      [{ role := .user, content := .text "read it" },
       { role := .tool, content := .parts [.known (.toolResult "t1" (.string "0123456789") none none)] },
       { role := .assistant, content := .text "done" }] }

def shortParams : SteadyStateTrimParams :=
  { triggerTokens := 20, clearAtLeastTokens := 3, headKeepMessages := 1, keepRecentMessages := 1 }

theorem growth_holds_span_and_marks_one_turn :
    ∃ plan grown, proposeSteadyStateTrim toolConversation shortParams = some plan ∧
      proposeSteadyStateTrim (toolConversation.append [{ role := .user, content := .text "next" }])
        shortParams = some grown ∧ grown.span = plan.span ∧ grown.marks = plan.marks := by
  obtain ⟨plan, proposed⟩ := Option.isSome_iff_exists.mp
    (by decide +kernel : (proposeSteadyStateTrim toolConversation shortParams).isSome = true)
  obtain ⟨grown, again, span, marks, -⟩ :=
    growth_holds_span_and_marks proposed [{ role := .user, content := .text "next" }]
  exact ⟨plan, grown, proposed, again, span, marks⟩

end Routectl.Trim
