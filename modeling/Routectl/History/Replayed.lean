import Routectl.History.Egress

/-! What a stripped and translated history keeps: the turns that still say something, every
call and every answer, and a wire message for every position that was not charged. -/
namespace Routectl.History
open Library
open Routectl.Schema (Role ReasoningDetail)
open Routectl.Trim (ContentPart KnownContentPart MessageContent)
open Routectl.Replay (NormalizeRequest sanitizeToolId)

/-! ### The strip turn by turn -/

section Strip
variable (decode : String → Option ByteArray)

def withoutUnsigned : MessageContent → MessageContent
  | .parts parts => .parts (keptParts decode parts)
  | other => other

/-- A turn as the strip keeps it: the unsigned thinking is gone, and nothing but a refusal. -/
structure Kept (message kept : Message) : Prop where
  role : kept.role = message.role
  content : kept.content = withoutUnsigned decode message.content
  reasoning : kept.reasoning = message.reasoning
  reasoningDetails : kept.reasoningDetails = message.reasoningDetails
  name : kept.name = message.name
  toolCallId : kept.toolCallId = message.toolCallId
  toolCalls : kept.toolCalls = message.toolCalls

/-- Nothing of a turn would reach the wire but its unsigned thinking. -/
structure Spent (message : Message) : Prop where
  parts : ∃ parts, message.content = .parts parts ∧
    ∀ part ∈ parts, isUnsignedThinkingPart decode part = true
  calls : message.toolCalls.getD [] = []
  details : ∀ detail ∈ message.reasoningDetails, isAnthropicEmittableDetail detail = false

/-- The turn kept before stands as a system turn on the wire. -/
def BehindSystem (policy : SystemTurnPolicy) (last : Option Message) : Prop :=
  policy = .forward ∧ ∃ before, last = some before ∧ before.role = .system

/-- A history turn by turn, `last` the turn kept before it: what is spent goes, unless a system
turn would be left without the turn it must precede. -/
inductive Pruned (policy : SystemTurnPolicy) : Option Message → List Message → List Message → Prop
  | nil (last : Option Message) : Pruned policy last [] []
  | kept (last : Option Message) (message kept : Message) (rest out : List Message) :
      Kept decode message kept → (Spent decode message → BehindSystem policy last) →
      Pruned policy (some kept) rest out → Pruned policy last (message :: rest) (kept :: out)
  | dropped (last : Option Message) (message : Message) (rest out : List Message) :
      Spent decode message → ¬ BehindSystem policy last →
      Pruned policy last rest out → Pruned policy last (message :: rest) out

variable {decode} {policy : SystemTurnPolicy} {last : Option Message} {message kept : Message}
variable {messages out : List Message}

theorem keptParts_eq_nil_iff {parts : List ContentPart} :
    keptParts decode parts = [] ↔ ∀ part ∈ parts, isUnsignedThinkingPart decode part = true := by
  simp [keptParts, List.filter_eq_nil_iff]

theorem hasToolCalls_eq_false_iff : hasToolCalls message = false ↔ message.toolCalls.getD [] = [] := by
  cases calls : message.toolCalls with
  | none => simp [hasToolCalls, calls]
  | some held => simp [hasToolCalls, calls]

theorem messageHasEmittableReasoning_eq_false_iff : messageHasEmittableReasoning message = false ↔
    ∀ detail ∈ message.reasoningDetails, isAnthropicEmittableDetail detail = false := by
  simp [messageHasEmittableReasoning]

theorem behindSystem_iff : BehindSystem policy last ↔
    (policy = .forward && last.any fun before => before.role = .system) = true := by
  cases last <;> simp [BehindSystem]

theorem spent_iff {parts : List ContentPart} (content : message.content = .parts parts) :
    Spent decode message ↔ ((keptParts decode parts).isEmpty && !hasToolCalls message &&
      !messageHasEmittableReasoning message) = true := by
  simp only [Bool.and_eq_true, List.isEmpty_iff, Bool.not_eq_true', hasToolCalls_eq_false_iff,
    messageHasEmittableReasoning_eq_false_iff, keptParts_eq_nil_iff]
  constructor
  · rintro ⟨⟨held, same, unsigned⟩, calls, details⟩
    obtain rfl : parts = held := by simpa [content] using same
    exact ⟨⟨unsigned, calls⟩, details⟩
  · rintro ⟨⟨unsigned, calls⟩, details⟩
    exact ⟨⟨parts, content, unsigned⟩, calls, details⟩

theorem kept_refl (content : withoutUnsigned decode message.content = message.content) :
    Kept decode message message :=
  ⟨rfl, content.symm, rfl, rfl, rfl, rfl, rfl⟩

/-- What one round of the rebuild can do. -/
theorem stripTurn_cases (policy : SystemTurnPolicy) (last : Option Message) (message : Message) :
    (∃ kept, stripTurn decode policy last message = some kept ∧ Kept decode message kept ∧
      (Spent decode message → BehindSystem policy last)) ∨
    (stripTurn decode policy last message = none ∧ Spent decode message ∧
      ¬ BehindSystem policy last) := by
  cases content : message.content with
  | parts parts =>
    have round : stripTurn decode policy last message =
        if ((keptParts decode parts).isEmpty && !hasToolCalls message &&
            !messageHasEmittableReasoning message) && !(policy = .forward &&
              last.any fun before => before.role = .system) then none
        else some { message with content := .parts (keptParts decode parts), refusal := none } := by
      simp only [stripTurn, content]
    have same : Kept decode message
        { message with content := .parts (keptParts decode parts), refusal := none } :=
      ⟨rfl, by rw [content]; rfl, rfl, rfl, rfl, rfl, rfl⟩
    rw [round]
    by_cases spent : Spent decode message
    · by_cases behind : BehindSystem policy last
      · left
        have refused := behindSystem_iff.mp behind
        refine ⟨_, ?_, same, fun _ => behind⟩
        rw [refused, Bool.not_true, Bool.and_false]
        rfl
      · right
        have goes := (spent_iff content).mp spent
        have free := Bool.eq_false_iff.mpr fun there => behind (behindSystem_iff.mpr there)
        refine ⟨?_, spent, behind⟩
        rw [goes, free]
        rfl
    · left
      have stays := Bool.eq_false_iff.mpr fun goes => spent ((spent_iff content).mpr goes)
      refine ⟨_, ?_, same, fun there => absurd there spent⟩
      rw [stays]
      rfl
  | text body =>
    left
    refine ⟨message, by simp only [stripTurn, content], kept_refl (by rw [content]; rfl), ?_⟩
    rintro ⟨⟨parts, same, -⟩, -, -⟩
    rw [content] at same
    cases same
  | null =>
    left
    refine ⟨message, by simp only [stripTurn, content], kept_refl (by rw [content]; rfl), ?_⟩
    rintro ⟨⟨parts, same, -⟩, -, -⟩
    rw [content] at same
    cases same

theorem stripTurns_pruned (policy : SystemTurnPolicy) (last : Option Message)
    (messages : List Message) :
    Pruned decode policy last messages (stripTurns decode policy last messages) := by
  induction messages generalizing last with
  | nil => exact .nil last
  | cons message rest ih =>
    obtain ⟨kept, round, same, earned⟩ | ⟨round, spent, free⟩ :=
      @stripTurn_cases decode policy last message
    · rw [stripTurns, round]
      exact .kept last message kept rest _ same earned (ih (some kept))
    · rw [stripTurns, round]
      exact .dropped last message rest _ spent free (ih last)

theorem Kept.signed (same : Kept decode message kept) :
    messageHasUnsignedThinking decode kept = false := by
  unfold messageHasUnsignedThinking
  rw [same.content]
  cases message.content with
  | parts parts => simp [withoutUnsigned, keptParts]
  | text body => rfl
  | null => rfl

theorem Pruned.mem (pruned : Pruned decode policy last messages out) (member : kept ∈ out) :
    ∃ message ∈ messages, Kept decode message kept := by
  induction pruned with
  | nil => cases member
  | kept last message turn rest out same earned tail ih =>
    obtain rfl | later := List.mem_cons.mp member
    · exact ⟨message, List.mem_cons_self, same⟩
    · obtain ⟨held, there, kept⟩ := ih later
      exact ⟨held, List.mem_cons_of_mem _ there, kept⟩
  | dropped last message rest out spent free tail ih =>
    obtain ⟨held, there, kept⟩ := ih member
    exact ⟨held, List.mem_cons_of_mem _ there, kept⟩

/-- What a normalized history is, where nothing is preserved. -/
theorem normalize_cases {provider : String} {reasoning : HistoryReasoning}
    (strips : reasoning ≠ .preserve)
    (normalized : normalizeReplayInvariants decode provider messages reasoning policy = .ok out) :
    (∀ turn ∈ messages, answersNothing turn = false) ∧
    ((out = messages ∧ ∀ turn ∈ messages, messageHasUnsignedThinking decode turn = false) ∨
      (Pruned decode policy none messages out ∧
        ∃ turn ∈ messages, messageHasUnsignedThinking decode turn = true)) := by
  unfold normalizeReplayInvariants at normalized
  cases found : messages.zipIdx.find? fun turn => answersNothing turn.1 with
  | some turn =>
    rw [found] at normalized
    cases normalized
  | none =>
    rw [found] at normalized
    dsimp only at normalized
    rw [if_neg strips] at normalized
    constructor
    · intro turn member
      obtain ⟨index, there⟩ := List.getElem?_of_mem member
      have clear := List.find?_eq_none.mp found (turn, index)
        (List.mk_mem_zipIdx_iff_getElem?.mpr there)
      simpa using clear
    · by_cases unsigned : messages.any (messageHasUnsignedThinking decode) = true
      · rw [if_pos unsigned] at normalized
        obtain rfl := Except.ok.inj normalized
        exact Or.inr ⟨stripTurns_pruned policy none messages, List.any_eq_true.mp unsigned⟩
      · rw [if_neg unsigned] at normalized
        obtain rfl := Except.ok.inj normalized
        refine Or.inl ⟨rfl, fun turn member => ?_⟩
        exact Bool.eq_false_iff.mpr fun there => unsigned (List.any_eq_true.mpr ⟨turn, member, there⟩)

end Strip

def asked : Message := { role := .user, content := .text "why" }
/-- What an assistant says behind a thought nobody signed. -/
def thinking (said : List ContentPart) : Message :=
  { role := .assistant, content := .parts (.known (.thinking "hm" none) :: said) }

section Walking
variable (policy : SystemTurnPolicy) (envelopes : Bool) (read : String → Option Json)

/-- What survives of a forwarded system turn. -/
inductive Screened : MessageContent → MessageContent → Prop
  | text (body : String) : isBillingAttributionBlock body = false → Screened (.text body) (.text body)
  | parts (parts : List ContentPart) :
      Screened (.parts parts) (.parts (parts.filter fun part => !isBillingAttributionPart part))

/-- Nothing in a system turn is more than attribution. -/
inductive Withheld : MessageContent → Prop
  | text (body : String) : isBillingAttributionBlock body = true → Withheld (.text body)
  | parts (parts : List ContentPart) :
      (∀ part ∈ parts, isBillingAttributionPart part = true) → Withheld (.parts parts)

/-- A turn outside of the runs, with the message it becomes. -/
inductive TurnEmits : Message → List AnthropicMessage → Prop
  | lifted (message : Message) : message.role = .system → policy = .lift → TurnEmits message []
  | withheld (message : Message) : message.role = .system → policy = .forward →
      Withheld message.content → TurnEmits message []
  | forwarded (message : Message) (screened : MessageContent) : message.role = .system →
      policy = .forward → Screened message.content screened →
      TurnEmits message [⟨.system, translateSimpleContent envelopes screened⟩]
  | assistant (message : Message) : message.role = .assistant →
      TurnEmits message [⟨.assistant, buildAssistantContent envelopes read message⟩]
  | plain (message : Message) : message.role ≠ .system → message.role ≠ .assistant →
      message.role ≠ .tool →
      TurnEmits message [⟨.user, translateSimpleContent envelopes message.content⟩]

/-- A history as the walk tells it: turn by turn, and a run of tool turns as one message. -/
inductive Walked : List Message → List AnthropicMessage → Prop
  | nil : Walked [] []
  | turn (message : Message) (rest : List Message) (emitted out : List AnthropicMessage) :
      isToolTurn message = false → TurnEmits policy envelopes read message emitted →
      Walked rest out → Walked (message :: rest) (emitted ++ out)
  | run (run left : List Message) (out : List AnthropicMessage) :
      run ≠ [] → (∀ message ∈ run, message.role = .tool) →
      (∀ next, left.head? = some next → isToolTurn next = false) →
      Walked left out → Walked (run ++ left) (buildToolMessage envelopes run :: out)

variable {policy envelopes read} {provider : String} {index : Nat} {message : Message}
variable {messages : List Message} {walk after : Walk}

theorem screenForwardedSystemContent_some {content screened : MessageContent}
    (survives : screenForwardedSystemContent provider index content = .ok (some screened)) :
    Screened content screened := by
  cases content with
  | null => cases survives
  | text body =>
    simp only [screenForwardedSystemContent] at survives
    by_cases billing : isBillingAttributionBlock body = true
    · rw [if_pos billing] at survives
      cases survives
    · rw [if_neg billing] at survives
      by_cases blank : isBlank body = true
      · rw [if_pos blank] at survives
        cases survives
      · rw [if_neg blank] at survives
        obtain rfl := Option.some.inj (Except.ok.inj survives)
        exact .text body (Bool.eq_false_iff.mpr billing)
  | parts parts =>
    simp only [screenForwardedSystemContent] at survives
    by_cases empty : parts.isEmpty = true
    · rw [if_pos empty] at survives
      cases survives
    · rw [if_neg empty] at survives
      by_cases none : (parts.filter fun part => !isBillingAttributionPart part).isEmpty = true
      · rw [if_pos none] at survives
        cases survives
      · rw [if_neg none] at survives
        by_cases blank : (parts.filter fun part => !isBillingAttributionPart part).all
            isBlankTextPart = true
        · rw [if_pos blank] at survives
          cases survives
        · rw [if_neg blank] at survives
          obtain rfl := Option.some.inj (Except.ok.inj survives)
          exact .parts parts

theorem screenForwardedSystemContent_none {content : MessageContent}
    (gone : screenForwardedSystemContent provider index content = .ok none) : Withheld content := by
  cases content with
  | null => cases gone
  | text body =>
    simp only [screenForwardedSystemContent] at gone
    by_cases billing : isBillingAttributionBlock body = true
    · exact .text body billing
    · rw [if_neg billing] at gone
      by_cases blank : isBlank body = true
      · rw [if_pos blank] at gone
        cases gone
      · rw [if_neg blank] at gone
        cases gone
  | parts parts =>
    simp only [screenForwardedSystemContent] at gone
    by_cases empty : parts.isEmpty = true
    · rw [if_pos empty] at gone
      cases gone
    · rw [if_neg empty] at gone
      by_cases none : (parts.filter fun part => !isBillingAttributionPart part).isEmpty = true
      · apply Withheld.parts
        simpa [List.filter_eq_nil_iff] using none
      · rw [if_neg none] at gone
        by_cases blank : (parts.filter fun part => !isBillingAttributionPart part).all
            isBlankTextPart = true
        · rw [if_pos blank] at gone
          cases gone
        · rw [if_neg blank] at gone
          cases gone

/-- The positions walked so far are all emitted or charged. -/
structure Balanced (walk : Walk) (done : Nat) : Prop where
  accounted : walk.out.length + walk.ledger.toolTurnsConsumed +
    walk.ledger.systemTurnsConsumedByLift + walk.ledger.systemTurnsDroppedByBillingStrip =
      done + walk.ledger.toolRunsEmitted
  runs : walk.ledger.toolRunsEmitted ≤ walk.ledger.toolTurnsConsumed

/-- What one round over a turn can do. -/
theorem walkTurn_cases (plain : isToolTurn message = false)
    (walked : walkTurn provider policy envelopes read index message walk = .ok after) :
    after.ledger.consumed = walk.ledger.consumed ∧
    (∀ done, Balanced walk done → Balanced after (done + 1)) ∧
    ∃ emitted, after.out = walk.out ++ emitted ∧
      TurnEmits policy envelopes read message emitted := by
  have pushed : ∀ wire done, Balanced walk done → Balanced (walk.push wire) (done + 1) := by
    intro wire done balanced
    refine ⟨?_, balanced.runs⟩
    have accounted := balanced.accounted
    simp only [Walk.push, List.length_append, List.length_singleton]
    omega
  have others : ∀ role, message.role = role → role ≠ .system → role ≠ .assistant →
      after = walk.push ⟨.user, translateSimpleContent envelopes message.content⟩ →
      after.ledger.consumed = walk.ledger.consumed ∧
      (∀ done, Balanced walk done → Balanced after (done + 1)) ∧
      ∃ emitted, after.out = walk.out ++ emitted ∧
        TurnEmits policy envelopes read message emitted := by
    rintro role rfl system assistant rfl
    refine ⟨rfl, pushed _, _, rfl, .plain message system assistant ?_⟩
    simpa [isToolTurn] using plain
  cases role : message.role with
  | system =>
    simp only [walkTurn, role] at walked
    cases policy with
    | lift =>
      obtain rfl := Except.ok.inj walked
      refine ⟨rfl, fun done balanced => ⟨?_, balanced.runs⟩, [], (List.append_nil _).symm,
        .lifted message role rfl⟩
      have accounted := balanced.accounted
      dsimp only
      omega
    | forward =>
      dsimp only at walked
      cases screen : screenForwardedSystemContent provider index message.content with
      | error error =>
        rw [screen] at walked
        cases walked
      | ok screened =>
        rw [screen] at walked
        cases screened with
        | none =>
          obtain rfl := Except.ok.inj walked
          refine ⟨rfl, fun done balanced => ⟨?_, balanced.runs⟩, [], (List.append_nil _).symm,
            .withheld message role rfl (screenForwardedSystemContent_none screen)⟩
          have accounted := balanced.accounted
          dsimp only
          omega
        | some content =>
          obtain rfl := Except.ok.inj walked
          exact ⟨rfl, pushed _, _, rfl,
            .forwarded message content role rfl (screenForwardedSystemContent_some screen)⟩
  | assistant =>
    simp only [walkTurn, role] at walked
    obtain rfl := Except.ok.inj walked
    exact ⟨rfl, pushed _, _, rfl, .assistant message role⟩
  | user =>
    simp only [walkTurn, role] at walked
    exact others .user role (by simp) (by simp) (Except.ok.inj walked).symm
  | tool => simp [isToolTurn, role] at plain
  | other tag =>
    simp only [walkTurn, role] at walked
    exact others (.other tag) role (by simp) (by simp) (Except.ok.inj walked).symm

theorem walkRun_balanced {run : List Message} {done : Nat} (nonempty : run ≠ [])
    (balanced : Balanced walk done) :
    Balanced (walkRun envelopes run walk) (done + run.length) := by
  obtain ⟨accounted, runs⟩ := balanced
  have counted := List.length_pos_iff.mpr nonempty
  constructor
  · simp only [walkRun, List.length_append, List.length_singleton]
    omega
  · simp only [walkRun]
    omega

theorem collectToolRun_spec (tool : isToolTurn message = true) (rest : List Message) :
    (collectToolRun (message :: rest)).1 ++ (collectToolRun (message :: rest)).2 =
      message :: rest ∧
    (collectToolRun (message :: rest)).1 ≠ [] ∧
    (∀ turn ∈ (collectToolRun (message :: rest)).1, turn.role = .tool) ∧
    ∀ next, (collectToolRun (message :: rest)).2.head? = some next → isToolTurn next = false := by
  refine ⟨List.takeWhile_append_dropWhile, ?_, ?_, ?_⟩
  · simp [collectToolRun, tool]
  · intro turn member
    have tools := List.all_eq_true.mp (@List.all_takeWhile _ isToolTurn (message :: rest)) turn member
    simpa [isToolTurn] using tools
  · intro next first
    have ended := List.head?_dropWhile_not isToolTurn (message :: rest)
    simp only [collectToolRun] at first
    rw [first] at ended
    simpa using ended

/-- A walk tells the turns it is given, and accounts for each of them. -/
theorem walkFrom_walked {rounds done : Nat} (enough : messages.length ≤ rounds)
    (balanced : Balanced walk done)
    (walked : walkFrom provider policy envelopes read rounds index messages walk = .ok after) :
    after.ledger.consumed = walk.ledger.consumed ∧ Balanced after (done + messages.length) ∧
    ∃ emitted, after.out = walk.out ++ emitted ∧
      Walked policy envelopes read messages emitted := by
  induction rounds generalizing index messages walk done with
  | zero =>
    obtain rfl := List.length_eq_zero_iff.mp (Nat.le_zero.mp enough)
    obtain rfl := Except.ok.inj walked
    exact ⟨rfl, balanced, [], (List.append_nil _).symm, .nil⟩
  | succ rounds ih =>
    cases messages with
    | nil =>
      obtain rfl := Except.ok.inj walked
      exact ⟨rfl, balanced, [], (List.append_nil _).symm, .nil⟩
    | cons message rest =>
      rw [walkFrom] at walked
      cases tool : isToolTurn message with
      | true =>
        rw [if_pos tool] at walked
        dsimp only at walked
        obtain ⟨whole, nonempty, tools, ended⟩ := collectToolRun_spec tool rest
        generalize collectToolRun (message :: rest) = collected at walked whole nonempty tools ended
        obtain ⟨run, left⟩ := collected
        dsimp only at walked whole nonempty tools ended
        have lengths : run.length + left.length = (message :: rest).length := by
          rw [← List.length_append, whole]
        have counted := List.length_pos_iff.mpr nonempty
        have short : left.length ≤ rounds := by
          rw [List.length_cons] at enough lengths
          omega
        obtain ⟨consumed, evened, emitted, grown, told⟩ :=
          ih short (walkRun_balanced nonempty balanced) walked
        refine ⟨consumed, ?_, buildToolMessage envelopes run :: emitted, ?_, ?_⟩
        · rw [← lengths, ← Nat.add_assoc]
          exact evened
        · rw [grown]
          simp [walkRun]
        · rw [← whole]
          exact .run run left emitted nonempty tools ended told
      | false =>
        rw [if_neg (by simp [tool])] at walked
        cases round : walkTurn provider policy envelopes read index message walk with
        | error error =>
          rw [round] at walked
          cases walked
        | ok next =>
          rw [round] at walked
          obtain ⟨carried, evens, first, pushed, emits⟩ := walkTurn_cases tool round
          obtain ⟨consumed, evened, emitted, grown, told⟩ :=
            ih (Nat.le_of_succ_le_succ enough) (evens done balanced) walked
          refine ⟨consumed.trans carried, ?_, first ++ emitted, ?_,
            .turn message rest first emitted tool emits told⟩
          · rw [List.length_cons, Nat.add_comm rest.length, ← Nat.add_assoc]
            exact evened
          · rw [grown, pushed, List.append_assoc]

theorem translateMessagesThreaded_walked
    (walked : translateMessagesThreaded provider policy envelopes read messages = .ok after) :
    after.ledger.consumed = messages.length ∧ Balanced after messages.length ∧
      Walked policy envelopes read messages after.out := by
  have start : Balanced { ledger := { consumed := messages.length } } 0 := ⟨rfl, Nat.le_refl 0⟩
  obtain ⟨consumed, balanced, emitted, grown, told⟩ :=
    walkFrom_walked (Nat.le_refl messages.length) start walked
  rw [Nat.zero_add] at balanced
  rw [List.nil_append] at grown
  exact ⟨consumed, balanced, grown ▸ told⟩

theorem Balanced.verified (consumed : after.ledger.consumed = messages.length)
    (balanced : Balanced after messages.length) :
    after.ledger.verify provider after.out.length = .ok () := by
  obtain ⟨accounted, runs⟩ := balanced
  apply if_pos
  unfold MessageLedger.expectedEmitted
  rw [consumed]
  omega

theorem translateMessages_walked {out : List AnthropicMessage}
    (translated : translateMessages provider policy envelopes read messages = .ok out) :
    Walked policy envelopes read messages out := by
  unfold translateMessages at translated
  cases walked : translateMessagesThreaded provider policy envelopes read messages with
  | error error =>
    rw [walked] at translated
    cases translated
  | ok walk =>
    obtain ⟨consumed, balanced, told⟩ := translateMessagesThreaded_walked walked
    rw [walked] at translated
    dsimp only at translated
    rw [balanced.verified consumed] at translated
    obtain rfl := Except.ok.inj translated
    exact told

/-! ### Refusals -/

/-- A forwarded system turn that would reach the wire empty. -/
def saysNothing : MessageContent → Bool
  | .null => true
  | .text body => !isBillingAttributionBlock body && isBlank body
  | .parts parts =>
    let kept := parts.filter fun part => !isBillingAttributionPart part
    parts.isEmpty || (!kept.isEmpty && kept.all isBlankTextPart)

def silentTurn (policy : SystemTurnPolicy) (message : Message) : Bool :=
  policy = .forward && message.role = .system && saysNothing message.content

theorem screenForwardedSystemContent_refuses (content : MessageContent) :
    (saysNothing content = true ∧
      screenForwardedSystemContent provider index content =
        .error (emptySystemTurnError provider index)) ∨
    (saysNothing content = false ∧
      ∃ screened, screenForwardedSystemContent provider index content = .ok screened) := by
  cases content with
  | null => exact Or.inl ⟨rfl, rfl⟩
  | text body =>
    simp only [saysNothing, screenForwardedSystemContent]
    cases isBillingAttributionBlock body <;> cases isBlank body <;> simp
  | parts parts =>
    simp only [saysNothing, screenForwardedSystemContent]
    cases parts.isEmpty <;>
      cases (parts.filter fun part => !isBillingAttributionPart part).isEmpty <;>
      cases (parts.filter fun part => !isBillingAttributionPart part).all isBlankTextPart <;> simp

/-- One round is refused for a silent turn and for nothing else. -/
theorem walkTurn_refuses (provider : String) (index : Nat) (message : Message) (walk : Walk) :
    (silentTurn policy message = true ∧
      walkTurn provider policy envelopes read index message walk =
        .error (emptySystemTurnError provider index)) ∨
    (silentTurn policy message = false ∧
      ∃ after, walkTurn provider policy envelopes read index message walk = .ok after) := by
  cases role : message.role with
  | system =>
    cases policy with
    | lift =>
      refine Or.inr ⟨rfl, ?_⟩
      simp only [walkTurn, role]
      exact ⟨_, rfl⟩
    | forward =>
      obtain ⟨silent, refused⟩ | ⟨spoken, screened, passed⟩ :=
        @screenForwardedSystemContent_refuses provider index message.content
      · exact Or.inl ⟨by simp [silentTurn, role, silent], by simp only [walkTurn, role, refused]⟩
      · refine Or.inr ⟨by simp [silentTurn, spoken], ?_⟩
        simp only [walkTurn, role, passed]
        cases screened with
        | none => exact ⟨_, rfl⟩
        | some content => exact ⟨_, rfl⟩
  | user =>
    refine Or.inr ⟨by simp [silentTurn, role], ?_⟩
    simp only [walkTurn, role]
    exact ⟨_, rfl⟩
  | assistant =>
    refine Or.inr ⟨by simp [silentTurn, role], ?_⟩
    simp only [walkTurn, role]
    exact ⟨_, rfl⟩
  | tool =>
    refine Or.inr ⟨by simp [silentTurn, role], ?_⟩
    simp only [walkTurn, role]
    exact ⟨_, rfl⟩
  | other tag =>
    refine Or.inr ⟨by simp [silentTurn, role], ?_⟩
    simp only [walkTurn, role]
    exact ⟨_, rfl⟩

theorem findIdx_tools {run : List Message} (tools : ∀ turn ∈ run, turn.role = .tool) :
    run.findIdx? (silentTurn policy) = none := by
  apply List.findIdx?_eq_none_iff.mpr
  intro turn member
  simp [silentTurn, tools turn member]

theorem walkFrom_error_iff {rounds : Nat} (enough : messages.length ≤ rounds)
    (error : NormalizeRequest) :
    walkFrom provider policy envelopes read rounds index messages walk = .error error ↔
      ∃ offset, messages.findIdx? (silentTurn policy) = some offset ∧
        error = emptySystemTurnError provider (index + offset) := by
  induction rounds generalizing index messages walk with
  | zero =>
    obtain rfl := List.length_eq_zero_iff.mp (Nat.le_zero.mp enough)
    simp [walkFrom]
  | succ rounds ih =>
    cases messages with
    | nil => simp [walkFrom]
    | cons message rest =>
      rw [walkFrom]
      cases tool : isToolTurn message with
      | true =>
        rw [if_pos rfl]
        obtain ⟨whole, nonempty, tools, -⟩ := collectToolRun_spec tool rest
        generalize collectToolRun (message :: rest) = collected at whole nonempty tools ⊢
        obtain ⟨run, left⟩ := collected
        dsimp only at whole nonempty tools ⊢
        have lengths : run.length + left.length = (message :: rest).length := by
          rw [← List.length_append, whole]
        have counted := List.length_pos_iff.mpr nonempty
        have short : left.length ≤ rounds := by
          rw [List.length_cons] at enough lengths
          omega
        rw [ih short, ← whole, List.findIdx?_append, findIdx_tools tools]
        simp only [Option.none_or, Option.map_eq_some_iff]
        constructor
        · rintro ⟨offset, found, rfl⟩
          exact ⟨_, ⟨offset, found, rfl⟩, by rw [Nat.add_comm offset, ← Nat.add_assoc]⟩
        · rintro ⟨_, ⟨offset, found, rfl⟩, rfl⟩
          exact ⟨offset, found, by rw [Nat.add_comm offset, ← Nat.add_assoc]⟩
      | false =>
        rw [if_neg (by simp)]
        obtain ⟨silent, refused⟩ | ⟨spoken, next, passed⟩ :=
          @walkTurn_refuses policy envelopes read provider index message walk
        · rw [refused, List.findIdx?_cons, silent]
          constructor
          · intro same
            exact ⟨0, rfl, (Except.error.inj same).symm⟩
          · rintro ⟨offset, found, rfl⟩
            obtain rfl := Option.some.inj found
            rfl
        · rw [passed, List.findIdx?_cons, spoken]
          dsimp only
          rw [ih (Nat.le_of_succ_le_succ enough)]
          simp only [Bool.false_eq_true, if_false, Option.map_eq_some_iff]
          constructor
          · rintro ⟨offset, found, rfl⟩
            exact ⟨_, ⟨offset, found, rfl⟩, by rw [Nat.add_right_comm]; rfl⟩
          · rintro ⟨_, ⟨offset, found, rfl⟩, rfl⟩
            exact ⟨offset, found, by rw [Nat.add_right_comm]; rfl⟩

/-- A translation is refused for its first silent system turn and for nothing else: its own
accounting of the turns it walked never finds one missing. -/
theorem translation_refused_iff (provider : String) (policy : SystemTurnPolicy) (envelopes : Bool)
    (read : String → Option Json) (messages : List Message) (error : NormalizeRequest) :
    translateMessages provider policy envelopes read messages = .error error ↔
      ∃ index, messages.findIdx? (silentTurn policy) = some index ∧
        error = emptySystemTurnError provider index := by
  have threaded := @walkFrom_error_iff policy envelopes read provider 0 messages
    { ledger := { consumed := messages.length } } messages.length (Nat.le_refl _) error
  simp only [Nat.zero_add] at threaded
  rw [← threaded]
  unfold translateMessages translateMessagesThreaded
  cases walked : walkFrom provider policy envelopes read messages.length 0 messages
      { ledger := { consumed := messages.length } } with
  | error refused => simp only [Except.error.injEq]
  | ok walk =>
    obtain ⟨consumed, balanced, -⟩ := translateMessagesThreaded_walked walked
    dsimp only
    rw [balanced.verified consumed]
    exact iff_of_false (fun same => by cases same) (fun same => by cases same)

end Walking

end Routectl.History
