import Mathlib.Data.List.Forall2
import Routectl.Replay.Grouping

/-! A request told again in its own dialect: what it keeps of every conversation, and exactly
which ones come back as they were. -/
namespace Routectl.Replay
open Library Schema
open Routectl.ResponsesApi (AuthKind toolCallOf)

section Telling
variable (read : String → Option Json)

/-- A call whose arguments are read. -/
def IsCall (toolCall : Json) (said : ConversationItem) : Prop :=
  ∃ callId name text arguments, toolCall = toolCallOf callId name text ∧ callId ≠ "" ∧
    Verbatim callId ∧ text ≠ "" ∧ read text = some arguments ∧
    said = .functionCall callId name arguments

/-- The head of a turn, as the content of its message. -/
def IsHead (content : MessageContent) (head : List ConversationItem) : Prop :=
  (content = .null ∧ head = []) ∨
    ∃ texts, texts ≠ [] ∧ head = [.message "assistant" texts] ∧
      assistantContent content = texts.map .outputText

/-- An assistant message that holds a turn. -/
structure Holds (message : Message) (turn : Turn ConversationItem) : Prop where
  role : message.role = .assistant
  details : message.reasoningDetails = turn.lead.flatMap detailsOf
  reasonings : ∀ said ∈ turn.lead, place said = .lead
  distinct : (reasoningIds turn.lead).Nodup
  head : IsHead message.content turn.head
  calls : List.Forall₂ (IsCall read) (message.toolCalls.getD []) turn.tail

variable (provider : String) (authKind : AuthKind)

/-- The messages, none of the system among them, are told without an error as these items. -/
structure Tells (messages : List Message) (saids : List ConversationItem) : Prop where
  roles : ∀ message ∈ messages, message.role ≠ .system
  builds : ∃ out, buildInput provider authKind read messages = .ok out ∧
    out.map (told read) = saids.map some

def resealTurn (turn : Turn ConversationItem) : Turn ConversationItem :=
  { turn with lead := turn.lead.filterMap resealed }

/-- The messages are those before the turn, and the turn's where it has any. -/
inductive Mirrors : List Message → List ConversationItem → Turn ConversationItem → Prop
  | closed {messages : List Message} {done : List ConversationItem}
      (tells : Tells read provider authKind messages done)
      (ended : ∀ last, messages.getLast? = some last → last.role ≠ .assistant) :
      Mirrors messages done {}
  | opened {messages : List Message} {message : Message} {done : List ConversationItem}
      {turn : Turn ConversationItem} (tells : Tells read provider authKind messages done)
      (holds : Holds read message turn) : Mirrors (messages ++ [message]) done turn

end Telling

section Emitting
variable {read : String → Option Json} {provider : String} {authKind : AuthKind}
variable {messages : List Message} {message : Message} {saids : List ConversationItem}
variable {turn : Turn ConversationItem}

/-- What `serde_json` writes it reads back. -/
def Rereads (read : String → Option Json) : Prop :=
  ∀ text value, read text = some value → read (String.ofList value.compact) = some value

theorem tells_snoc {more : List ConversationItem} {items : List ResponseInputItem}
    (tells : Tells read provider authKind messages saids) (role : message.role ≠ .system)
    (translates : translateMessage provider authKind read message = .ok items)
    (reports : items.map (told read) = more.map some) :
    Tells read provider authKind (messages ++ [message]) (saids ++ more) := by
  obtain ⟨roles, out, builds, outReports⟩ := tells
  constructor
  case roles =>
    intro other member
    rcases List.mem_append.mp member with before | last
    · exact roles other before
    · exact List.mem_singleton.mp last ▸ role
  case builds =>
    refine ⟨out ++ items, ?_, by rw [List.map_append, List.map_append, outReports, reports]⟩
    unfold buildInput at builds ⊢
    rw [List.mapM_append]
    cases each : messages.mapM (translateMessage provider authKind read) with
    | error error =>
      rw [each] at builds
      cases builds
    | ok lists =>
      rw [each] at builds
      cases builds
      simp only [List.mapM_cons, List.mapM_nil, translates]
      show Except.ok (lists ++ [items]).flatten = Except.ok (lists.flatten ++ items)
      simp

/-- A content that says texts is held as one text or as parts of text. -/
theorem parseMessageContent_reads {content : Option Json} {texts : List String}
    (reads : ReadsContent content texts) :
    texts ≠ [] ∧ (∀ text ∈ texts, text ≠ "") ∧
      ((∃ text, texts = [text] ∧ parseMessageContent content = .text text) ∨
        parseMessageContent content = .parts (texts.map .text)) := by
  rcases reads with ⟨text, rfl, nonempty, rfl⟩ | ⟨blocks, rfl, filled, all⟩
  · exact ⟨by simp, by simpa using nonempty, .inl ⟨text, rfl, rfl⟩⟩
  · have parses := forall₂_filterMap parseContentBlock ContentPart.text (by
      rintro block text ⟨kind, found, _⟩
      unfold parseContentBlock
      dsimp only
      rw [if_pos kind, found]
      rfl) all
    have each : ∀ text ∈ texts, text ≠ "" := by
      clear parses filled
      induction all with
      | nil => simp
      | cons one _ ih => exact List.forall_mem_cons.mpr ⟨one.2.2, ih⟩
    have length := all.length_eq
    have parsed : parseMessageContent (some (.array blocks)) =
        collapseParts (texts.map .text) := congrArg collapseParts parses
    cases texts with
    | nil => exact absurd (List.length_eq_zero_iff.mp length) filled
    | cons first rest =>
      refine ⟨by simp, each, ?_⟩
      rw [parsed]
      cases rest with
      | nil => exact .inl ⟨first, rfl, rfl⟩
      | cons second others => exact .inr rfl

theorem mapM_text (texts : List String) (item : String → ResponsesContentItem)
    (texted : ∀ text, (item text).text = some text) :
    (texts.map item).mapM ResponsesContentItem.text = some texts := by
  induction texts with
  | nil => rfl
  | cons text rest ih => simp [List.mapM_cons, texted, ih]

theorem assistantContent_reads {content : Option Json} {texts : List String}
    (reads : ReadsContent content texts) :
    assistantContent (parseMessageContent content) = texts.map .outputText := by
  obtain ⟨filled, nonempty, ⟨text, rfl, held⟩ | held⟩ := parseMessageContent_reads reads
  · rw [held]
    exact if_neg (nonempty text List.mem_cons_self)
  · rw [held]
    clear held reads filled
    show (texts.map ContentPart.text).filterMap outputText = _
    induction texts with
    | nil => rfl
    | cons text rest ih =>
      have one : outputText (.text text) = some (.outputText text) :=
        if_neg (nonempty text List.mem_cons_self)
      rw [List.map_cons, List.filterMap_cons_some one,
        ih fun other member => nonempty other (List.mem_cons_of_mem _ member), List.map_cons]

theorem buildUserContent_reads (provider : String) {content : Option Json} {texts : List String}
    (reads : ReadsContent content texts) :
    buildUserContent provider (parseMessageContent content) = .ok (texts.map .inputText) := by
  obtain ⟨filled, nonempty, ⟨text, rfl, held⟩ | held⟩ := parseMessageContent_reads reads
  · rw [held]
    exact congrArg Except.ok (if_neg (nonempty text List.mem_cons_self))
  · rw [held]
    clear held reads filled
    have parts : (texts.map ContentPart.text).mapM (userPart provider) =
        .ok (texts.map fun text => [.inputText text]) := by
      induction texts with
      | nil => rfl
      | cons text rest ih =>
        have one : userPart provider (.text text) = .ok [.inputText text] :=
          congrArg Except.ok (if_neg (nonempty text List.mem_cons_self))
        rw [List.map_cons, List.mapM_cons, one,
          ih fun other member => nonempty other (List.mem_cons_of_mem _ member)]
        rfl
    show (do
      let items ← (texts.map ContentPart.text).mapM (userPart provider)
      pure items.flatten) = _
    rw [parts]
    show Except.ok (texts.map fun text => [ResponsesContentItem.inputText text]).flatten = _
    rw [← List.flatMap_def, List.map_eq_flatMap]

theorem normalizeOne_call (index : Nat) {callId name text : String} {arguments : Json}
    (some_id : callId ≠ "") (verbatim : Verbatim callId) (filled : text ≠ "")
    (reads : read text = some arguments) :
    normalizeOne read index (toolCallOf callId name text) = ⟨callId, name, arguments⟩ := by
  have parsed : parseArgumentsString read text = arguments := by
    unfold parseArgumentsString
    rw [if_neg filled, reads]
    rfl
  simp [normalizeOne, toolCallOf, stringField, Json.field, Json.asStr, some_id,
    sanitizeToolId_verbatim verbatim, parsed, List.lookup_cons]

/-- The calls of a turn come back, their arguments as the same JSON. -/
theorem functionCallsOf_told (rereads : Rereads read) {toolCalls : List Json}
    {calls : List ConversationItem} (held : message.toolCalls.getD [] = toolCalls)
    (all : List.Forall₂ (IsCall read) toolCalls calls) :
    (functionCallsOf read message).map (told read) = calls.map some := by
  have fromAny : ∀ start,
      ((toolCalls.zipIdx start).map fun entry =>
        told read (.functionCall (normalizeOne read entry.2 entry.1).id
          (normalizeOne read entry.2 entry.1).name
          (String.ofList (normalizeOne read entry.2 entry.1).arguments.compact))) =
        calls.map some := by
    clear held
    induction all with
    | nil => exact fun _ => rfl
    | cons one _ ih =>
      intro start
      obtain ⟨callId, name, text, arguments, rfl, some_id, verbatim, filled, reads, rfl⟩ := one
      rw [List.zipIdx_cons, List.map_cons, ih]
      simp [normalizeOne_call start some_id verbatim filled reads, told,
        rereads text arguments reads]
  unfold functionCallsOf normalizeToolCalls
  rw [held, List.map_map, List.map_map]
  exact fromAny 0

theorem texts_told (role : String) (texts : List String) (item : String → ResponsesContentItem)
    (texted : ∀ text, (item text).text = some text) :
    told read (.message role (texts.map item)) = some (.message role texts) := by
  simp only [told, mapM_text texts item texted, Option.map_some]

/-- An assistant message tells its turn: reasoning, text, calls. -/
theorem translateAssistantMessage_told (rereads : Rereads read) (authKind : AuthKind)
    (holds : Holds read message turn) :
    (translateAssistantMessage authKind read message).map (told read) =
      (resealTurn turn).told.map some := by
  have content : ((if assistantContent message.content = [] then []
      else [ResponseInputItem.message "assistant" (assistantContent message.content)]).map
        (told read)) = turn.head.map some := by
    rcases holds.head with ⟨empty, headless⟩ | ⟨texts, filled, headed, texted⟩
    · rw [empty, headless]
      rfl
    · have nonempty : assistantContent message.content ≠ [] := by simpa [texted] using filled
      have reported := @texts_told read "assistant" texts .outputText fun _ => rfl
      rw [if_neg nonempty, texted, headed, List.map_singleton, reported]
      rfl
  unfold translateAssistantMessage
  dsimp only
  rw [liftReasoningDetails_replayable, holds.details, List.map_append, List.map_append,
    liftReasoningDetails_leads read authKind holds.reasonings holds.distinct, content,
    functionCallsOf_told rereads rfl holds.calls]
  simp [resealTurn, Turn.told]

theorem Mirrors.tells (rereads : Rereads read) {done : List ConversationItem}
    (mirrors : Mirrors read provider authKind messages done turn) :
    Tells read provider authKind messages (done ++ (resealTurn turn).told) := by
  cases mirrors with
  | closed tells _ => simpa [resealTurn, Turn.told] using tells
  | @opened before last _ _ tells holds =>
    have translates : translateMessage provider authKind read last =
        .ok (translateAssistantMessage authKind read last) := by
      unfold translateMessage
      rw [holds.role]
    exact tells_snoc tells (by simp [holds.role]) translates
      (translateAssistantMessage_told rereads authKind holds)

end Emitting

section Attaching
variable {read : String → Option Json} {provider : String} {authKind : AuthKind}
variable {messages : List Message} {done : List ConversationItem} {turn : Turn ConversationItem}
variable {item : Json} {said : ConversationItem}

/-- A change that a turn's message takes on is taken on by the trailing one, or by a fresh
one. -/
theorem onTrailingAssistant_mirrors {change : Message → Message}
    {grown : Turn ConversationItem}
    (mirrors : Mirrors read provider authKind messages done turn)
    (changes : ∀ message, Holds read message turn → Holds read (change message) grown) :
    Mirrors read provider authKind (onTrailingAssistant messages change) done grown := by
  unfold onTrailingAssistant
  cases mirrors with
  | closed tells ended =>
    have fresh : Holds read { role := .assistant, content := .null } {} :=
      ⟨rfl, rfl, by simp, by simp [reasoningIds], .inl ⟨rfl, rfl⟩, .nil⟩
    split
    case h_1 last found =>
      rw [if_neg (ended last found)]
      exact .opened tells (changes _ fresh)
    case h_2 none =>
      rw [List.getLast?_eq_none_iff.mp none] at tells
      exact .opened tells (changes _ fresh)
  | opened tells holds =>
    rw [List.getLast?_concat]
    dsimp only
    rw [if_pos holds.role, List.dropLast_concat]
    exact .opened tells (changes _ holds)

theorem attachReasoning_mirrors {id encryptedContent : String}
    {summary : List ReasoningSummaryItem} {content : List ReasoningContentItem}
    (mirrors : Mirrors read provider authKind messages done turn)
    (reads : Reads read item (.reasoning id summary content encryptedContent))
    (unused : id ∉ reasoningIds turn.lead) :
    Mirrors read provider authKind (attachReasoning messages item) done
      { turn with
        lead := turn.lead ++ [.reasoning id summary content encryptedContent] } := by
  unfold attachReasoning
  dsimp only
  rw [reasoningDetailsOf_reads reads, if_neg (by simp [detailsOf])]
  apply onTrailingAssistant_mirrors mirrors
  intro message holds
  constructor
  case role => exact holds.role
  case details => simp [holds.details]
  case reasonings =>
    intro other member
    rcases List.mem_append.mp member with before | last
    · exact holds.reasonings other before
    · rw [List.mem_singleton.mp last]
      rfl
  case distinct =>
    have ids : reasoningIds (turn.lead ++ [.reasoning id summary content encryptedContent]) =
        reasoningIds turn.lead ++ [id] := by simp [reasoningIds]
    rw [ids]
    exact List.nodup_append.mpr ⟨holds.distinct, by simp, by
      rintro other member _ last rfl
      exact unused (List.mem_singleton.mp last ▸ member)⟩
  case head => exact holds.head
  case calls => exact holds.calls

theorem attachFunctionCall_mirrors {callId name : String} {arguments : Json}
    (mirrors : Mirrors read provider authKind messages done turn)
    (reads : Reads read item (.functionCall callId name arguments)) :
    Mirrors read provider authKind (attachFunctionCall messages item) done
      { turn with tail := turn.tail ++ [.functionCall callId name arguments] } := by
  obtain ⟨_, foundId, some_id, verbatim, foundName, text, foundText, filled, parses⟩ := reads
  have callIdOf : ((item.field "call_id").or (item.field "id")).bind Json.asStr = some callId := by
    unfold stringField at foundId
    cases own : item.field "call_id" with
    | none => simp [own] at foundId
    | some value => simpa [own] using foundId
  unfold attachFunctionCall
  rw [callIdOf, foundName, foundText]
  apply onTrailingAssistant_mirrors mirrors
  intro message holds
  constructor
  case role => exact holds.role
  case details => exact holds.details
  case reasonings => exact holds.reasonings
  case distinct => exact holds.distinct
  case head => exact holds.head
  case calls =>
    exact List.rel_append holds.calls (.cons
      ⟨callId, name, text, arguments, rfl, some_id, verbatim, filled, parses, rfl⟩ .nil)

/-- An assistant message closes the turn before it and heads the next. -/
theorem pushMessage_heads {texts : List String} (rereads : Rereads read)
    (mirrors : Mirrors read provider authKind messages done turn)
    (reads : Reads read item (.message "assistant" texts)) :
    Mirrors read provider authKind (pushMessageItem messages item)
      (done ++ (resealTurn turn).told) { head := [.message "assistant" texts] } := by
  obtain ⟨_, _, role, content⟩ := reads
  apply Mirrors.opened (mirrors.tells rereads)
  constructor
  case role =>
    rw [role]
    rfl
  case details => rfl
  case reasonings => simp
  case distinct => simp [reasoningIds]
  case head =>
    exact .inr ⟨texts, (parseMessageContent_reads content).1, rfl, assistantContent_reads content⟩
  case calls => exact .nil

/-- A user's message stands alone. -/
theorem pushMessage_alone {texts : List String} (rereads : Rereads read)
    (mirrors : Mirrors read provider authKind messages done turn)
    (reads : Reads read item (.message "user" texts)) :
    Mirrors read provider authKind (pushMessageItem messages item)
      (done ++ (resealTurn turn).told ++ [.message "user" texts]) {} := by
  obtain ⟨_, _, role, content⟩ := reads
  have isUser : parseRole (stringField item "role") = .user := by
    rw [role]
    rfl
  have filled : texts.map ResponsesContentItem.inputText ≠ [] := by
    simpa using (parseMessageContent_reads content).1
  apply Mirrors.closed
  case tells =>
    apply tells_snoc (mirrors.tells rereads)
    case role => simp [isUser]
    case translates =>
      unfold translateMessage
      rw [isUser]
      unfold translateUserMessage
      rw [buildUserContent_reads provider content]
      exact congrArg Except.ok (if_neg filled)
    case reports =>
      exact congrArg (fun reported => [reported])
        (texts_told "user" texts .inputText fun _ => rfl)
  case ended =>
    intro last found
    unfold pushMessageItem at found
    rw [List.getLast?_concat] at found
    obtain rfl := Option.some.inj found
    simp [isUser]

theorem functionCallOutput_alone {callId output : String} (rereads : Rereads read)
    (mirrors : Mirrors read provider authKind messages done turn)
    (reads : Reads read item (.functionCallOutput callId output)) :
    Mirrors read provider authKind (messages ++ [functionCallOutputMessage item])
      (done ++ (resealTurn turn).told ++ [.functionCallOutput callId output]) {} := by
  obtain ⟨_, found, some_id, verbatim, said⟩ := reads
  have answered : functionCallOutputMessage item =
      { role := .tool, content := .text output, toolCallId := some callId } := by
    unfold functionCallOutputMessage
    rw [found, said]
    simp [parseMessageContent, some_id]
  rw [answered]
  apply Mirrors.closed
  case tells =>
    apply tells_snoc (mirrors.tells rereads)
    case role => simp
    case translates =>
      unfold translateMessage translateToolMessage
      simp only [Option.filter, some_id, ne_eq, not_false_eq_true, decide_true, if_true,
        sanitizeToolId_verbatim verbatim]
      rfl
    case reports => rfl
  case ended =>
    intro last found
    rw [List.getLast?_concat] at found
    obtain rfl := Option.some.inj found
    simp

end Attaching

section Running
variable {read : String → Option Json} {provider : String} {authKind : AuthKind}
variable {items : List Json} {saids : List ConversationItem} {raws : List Json}

theorem regroup_reasoning {turn : Turn ConversationItem} {said : ConversationItem}
    (leads : place said = .lead) :
    regroupFrom place (resealTurn turn) ((said :: saids).filterMap resealed) =
      regroupFrom place (resealTurn { turn with lead := turn.lead ++ [said] })
        (saids.filterMap resealed) := by
  cases keeps : resealed said with
  | none => simp [keeps, resealTurn]
  | some kept =>
    have stays : place kept = .lead := (resealed_place keeps).trans leads
    rw [List.filterMap_cons_some keeps, regroupFrom, stays]
    simp [resealTurn, keeps]

/-- Where the messages stand after the rest of a conversation, and what it carried beside. -/
theorem conversation_runs (rereads : Rereads read) (conversation : Conversation read items saids raws)
    {parsing : Parsing} {done : List ConversationItem} {turn : Turn ConversationItem}
    (mirrors : Mirrors read provider authKind parsing.parsed.messages done turn)
    (distinct : (reasoningIds turn.lead ++ reasoningIds saids).Nodup) :
    Tells read provider authKind (items.foldl parseItem parsing).parsed.messages
        (done ++ regroupFrom place (resealTurn turn) (saids.filterMap resealed)) ∧
      (items.foldl parseItem parsing).parsed.passthrough.map (fun kept => kept.item) =
        parsing.parsed.passthrough.map (fun kept => kept.item) ++ raws := by
  induction conversation generalizing parsing done turn with
  | nil => exact ⟨mirrors.tells rereads, by simp⟩
  | @unmodeled item _ _ _ other _ ih =>
    have parses : (parseItem parsing item).parsed.messages = parsing.parsed.messages ∧
        (parseItem parsing item).parsed.passthrough =
          parsing.parsed.passthrough ++ [⟨parsing.modeledPrefix, item⟩] := by
      simp [parseItem, other]
    rw [← parses.1] at mirrors
    obtain ⟨tells, carried⟩ := ih mirrors distinct
    refine ⟨tells, carried.trans ?_⟩
    rw [parses.2]
    simp
  | @modeled item said _ saids raws reads _ ih =>
    rw [List.foldl_cons]
    cases said with
    | message role texts =>
      have parses : parseItem parsing item =
          parsing.modeled (pushMessageItem parsing.parsed.messages item) := by
        simp only [parseItem, reads.1]
      have later : (reasoningIds saids).Nodup := (List.nodup_append.mp distinct).2.1
      rw [parses]
      rcases reads.2.1 with rfl | rfl
      · have mirrored : Mirrors read provider authKind
            (parsing.modeled (pushMessageItem parsing.parsed.messages item)).parsed.messages _ {} :=
          pushMessage_alone rereads mirrors reads
        simpa [regroupFrom, place, resealTurn, resealed, Parsing.modeled] using ih mirrored later
      · have mirrored : Mirrors read provider authKind
            (parsing.modeled (pushMessageItem parsing.parsed.messages item)).parsed.messages _
            { head := [.message "assistant" texts] } :=
          pushMessage_heads rereads mirrors reads
        simpa [regroupFrom, place, resealTurn, resealed, Parsing.modeled] using ih mirrored later
    | reasoning id summary content encryptedContent =>
      have parses : parseItem parsing item =
          parsing.modeled (attachReasoning parsing.parsed.messages item) := by
        simp only [parseItem, reads.1]
      have ids : reasoningIds (.reasoning id summary content encryptedContent :: saids) =
          id :: reasoningIds saids := rfl
      rw [ids] at distinct
      have unused : id ∉ reasoningIds turn.lead := by
        intro member
        exact (List.nodup_append.mp distinct).2.2 id member id List.mem_cons_self rfl
      have grown : (reasoningIds (turn.lead ++ [.reasoning id summary content encryptedContent]) ++
          reasoningIds saids).Nodup := by
        simpa [reasoningIds] using distinct
      rw [parses, regroup_reasoning rfl]
      exact ih (attachReasoning_mirrors mirrors reads unused) grown
    | functionCall callId name arguments =>
      have parses : parseItem parsing item =
          parsing.modeled (attachFunctionCall parsing.parsed.messages item) := by
        simp only [parseItem, reads.1]
      have mirrored : Mirrors read provider authKind
          (parsing.modeled (attachFunctionCall parsing.parsed.messages item)).parsed.messages done
          { turn with tail := turn.tail ++ [.functionCall callId name arguments] } :=
        attachFunctionCall_mirrors mirrors reads
      rw [parses]
      exact ih mirrored distinct
    | functionCallOutput callId output =>
      have parses : parseItem parsing item = parsing.modeled
          (parsing.parsed.messages ++ [functionCallOutputMessage item]) := by
        simp only [parseItem, reads.1]
      have later : (reasoningIds saids).Nodup := (List.nodup_append.mp distinct).2.1
      have mirrored : Mirrors read provider authKind (parsing.modeled
          (parsing.parsed.messages ++ [functionCallOutputMessage item])).parsed.messages _ {} :=
        functionCallOutput_alone rereads mirrors reads
      rw [parses]
      simpa [regroupFrom, place, resealTurn, resealed, Parsing.modeled] using ih mirrored later

/-- What is told of a whole conversation, and what goes back in beside it. -/
theorem replay_told (rereads : Rereads read) (conversation : Conversation read items saids raws)
    (distinct : (reasoningIds saids).Nodup) (provider : String) (authKind : AuthKind) :
    ∃ out, replay provider authKind read (.array items) = .ok out ∧
      (out.filterMap ResponseInput.modeled).map (told read) =
        (regroup place (saids.filterMap resealed)).map some ∧
      out.filterMap ResponseInput.carried = raws := by
  have empty : Tells read provider authKind [] [] := ⟨by simp, [], rfl, rfl⟩
  have mirrors : Mirrors read provider authKind ({} : Parsing).parsed.messages [] {} :=
    .closed empty (by simp)
  obtain ⟨⟨roles, out, builds, reports⟩, carried⟩ :=
    conversation_runs rereads conversation mirrors distinct
  have kept : liftSystemMessages (buildMessages (.array items)).messages =
      (items.foldl parseItem {}).parsed.messages := by
    apply List.filter_eq_self.mpr
    intro message member
    exact decide_eq_true (roles message member)
  refine ⟨mergePassthrough out (buildMessages (.array items)).passthrough, ?_, ?_, ?_⟩
  · unfold replay buildInputWithPassthrough
    dsimp only
    rw [kept, builds]
    rfl
  · unfold mergePassthrough
    rw [mergeFrom_modeled]
    exact reports
  · unfold mergePassthrough
    rw [mergeFrom_carried]
    exact carried

theorem reads_signed (conversation : Conversation read items saids raws) :
    ∀ said ∈ saids, ∀ id summary content, said ≠ .reasoning id summary content "" := by
  induction conversation with
  | nil => simp
  | modeled reads _ ih =>
    intro said member id summary content
    rcases List.mem_cons.mp member with rfl | later
    · rintro rfl
      exact reads.2.2.2.2.2 rfl
    · exact ih said later id summary content
  | unmodeled _ _ ih => exact ih

/-- A conversation comes back as it was exactly where no reasoning comes after the message or
a call of its turn, and no reasoning item holds a signature ahead of its own. -/
theorem replay_preserves_iff (rereads : Rereads read)
    (conversation : Conversation read items saids raws) (distinct : (reasoningIds saids).Nodup)
    (provider : String) (authKind : AuthKind) :
    (∃ out, replay provider authKind read (.array items) = .ok out ∧
        Preserves read out saids raws) ↔
      Ordered place saids ∧ ∀ said ∈ saids, SealedLast said := by
  obtain ⟨out, replays, reports, carried⟩ :=
    replay_told rereads conversation distinct provider authKind
  have signed := reads_signed conversation
  have unchanged : (∀ said ∈ saids, resealed said = some said) ↔
      ∀ said ∈ saids, SealedLast said :=
    forall₂_congr fun said member => resealed_eq_iff (signed said member)
  rw [← unchanged, ← regroup_filterMap_eq_iff fun _ _ keeps => resealed_place keeps]
  constructor
  · rintro ⟨other, replaysToo, preserved, _⟩
    obtain rfl := Except.ok.inj (replays.symm.trans replaysToo)
    exact List.map_inj_right (fun _ _ same => Option.some.inj same) |>.mp
      (reports.symm.trans preserved)
  · intro same
    exact ⟨out, replays, reports.trans (congrArg _ same), carried⟩

def readsEmpty (text : String) : Option Json := if text = "\x7b\x7d" then some (.object []) else none

theorem readsEmpty_rereads : Rereads readsEmpty := by
  intro text value found
  unfold readsEmpty at found
  split at found
  case isTrue =>
    cases found
    rfl
  case isFalse => cases found

def callItem (callId : String) : Json :=
  .object [("type", .string "function_call"), ("call_id", .string callId),
    ("name", .string "look"), ("arguments", .string "\x7b\x7d")]

def outputItem (callId : String) : Json :=
  .object [("type", .string "function_call_output"), ("call_id", .string callId),
    ("output", .string "seen")]

def reasoningItem (id : String) : Json :=
  .object [("type", .string "reasoning"), ("id", .string id),
    ("summary", .array [.object [("type", .string "summary_text"), ("text", .string "so")]]),
    ("encrypted_content", .string "seal")]

def saidCall (callId : String) : ConversationItem := .functionCall callId "look" (.object [])

def saidReasoning (id : String) : ConversationItem :=
  .reasoning id [.summaryText "so"] [] "seal"

theorem callItem_reads {callId : String} (filled : callId ≠ "") (verbatim : Verbatim callId) :
    Reads readsEmpty (callItem callId) (saidCall callId) :=
  ⟨rfl, rfl, filled, verbatim, rfl, _, rfl, by decide, rfl⟩

theorem outputItem_reads {callId : String} (filled : callId ≠ "") (verbatim : Verbatim callId) :
    Reads readsEmpty (outputItem callId) (.functionCallOutput callId "seen") :=
  ⟨rfl, rfl, filled, verbatim, rfl⟩

theorem reasoningItem_reads (id : String) :
    Reads readsEmpty (reasoningItem id) (saidReasoning id) :=
  ⟨rfl, rfl, .inr ⟨_, rfl, .cons ⟨rfl, rfl⟩ .nil⟩, .inl ⟨.inl rfl, rfl⟩, rfl, by decide⟩

def searchItem : Json := .object [("type", .string "tool_search_call")]

/-- A turn of reasoning and a call, and what is not modeled beside its answer. -/
theorem plain_turn_preserved :
    ∃ out, replay "openai" .apiKey readsEmpty
        (.array [reasoningItem "rs_1", callItem "call_1", searchItem, outputItem "call_1"]) =
          .ok out ∧
      Preserves readsEmpty out
        [saidReasoning "rs_1", saidCall "call_1", .functionCallOutput "call_1" "seen"]
        [searchItem] := by
  have verbatim : Verbatim "call_1" := ⟨by decide, by decide⟩
  apply (replay_preserves_iff readsEmpty_rereads
    (.modeled (reasoningItem_reads "rs_1") (.modeled (callItem_reads (by decide) verbatim)
      (.unmodeled rfl (.modeled (outputItem_reads (by decide) verbatim) .nil))))
    (by decide) "openai" .apiKey).mpr
  refine ⟨⟨rfl, trivial⟩, ?_⟩
  simp [SealedLast, saidReasoning, saidCall]

/-- A call before the reasoning of its turn comes back after it. -/
theorem interleaved_turn_reordered :
    Conversation readsEmpty [callItem "call_1", reasoningItem "rs_1", callItem "call_2"]
        [saidCall "call_1", saidReasoning "rs_1", saidCall "call_2"] [] ∧
      (reasoningIds [saidCall "call_1", saidReasoning "rs_1", saidCall "call_2"]).Nodup ∧
      ∃ out, replay "openai" .apiKey readsEmpty
          (.array [callItem "call_1", reasoningItem "rs_1", callItem "call_2"]) = .ok out ∧
        (out.filterMap ResponseInput.modeled).map (told readsEmpty) =
          [some (saidReasoning "rs_1"), some (saidCall "call_1"), some (saidCall "call_2")] ∧
        ¬ Preserves readsEmpty out
          [saidCall "call_1", saidReasoning "rs_1", saidCall "call_2"] [] := by
  refine ⟨?_, by decide, _, rfl, rfl, ?_⟩
  · exact .modeled (callItem_reads (by decide) ⟨by decide, by decide⟩)
      (.modeled (reasoningItem_reads "rs_1")
        (.modeled (callItem_reads (by decide) ⟨by decide, by decide⟩) .nil))
  · rintro ⟨preserved, _⟩
    have first := congrArg List.head? preserved
    cases first

end Running
end Routectl.Replay
