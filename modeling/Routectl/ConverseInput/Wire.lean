import Routectl.ConverseInput.Messages
import Routectl.Library.Coalesce
import Routectl.Library.Threading

/-! What a Converse request keeps of a history: the blocks of its turns in order, put together
in the one way that alternates, each of a shape the wire accepts. -/
namespace Routectl.ConverseInput
open Library
open Routectl.Schema (Role ReasoningDetail)
open Routectl.Trim (CacheControl KnownContentPart ContentPart MessageContent)
open Routectl.Replay (NormalizeRequest sanitizeToolId)
open Routectl.History (Message anthropicFormat)

abbrev BlockRun := KeyedRun ConverseRole ConverseContentBlock

def ConverseMessage.run (message : ConverseMessage) : BlockRun := ⟨message.role, message.content⟩

/-- The blocks of one turn and the role they go out under, no turn before it read. -/
def turnRun (provider : String) (read : String → Option Json) (message : Message) :
    Except NormalizeRequest BlockRun :=
  match message.role with
  | .system => .ok ⟨.user, []⟩
  | .user => (buildUserTurn provider message).map fun blocks => ⟨.user, blocks⟩
  | .assistant =>
    (buildAssistantContentBlocks provider read message).map fun blocks => ⟨.assistant, blocks⟩
  | .tool => (buildToolMessage provider message).map ConverseMessage.run
  | .other _ => (buildUserTurn provider message).map fun blocks => ⟨.user, blocks⟩

section Coalescing
variable {provider : String} {read : String → Option Json}
variable {messages : List Message} {out : List ConverseMessage} {message : Message}

theorem run_injective : Function.Injective ConverseMessage.run := by
  intro first second same
  obtain ⟨role, content⟩ := first
  obtain ⟨other, blocks⟩ := second
  cases same
  rfl

theorem ensureMinToolResultContent_ne_nil (content : List ConverseToolResultContent) :
    ensureMinToolResultContent content ≠ [] := by
  unfold ensureMinToolResultContent
  split
  · exact List.cons_ne_nil _ _
  · rename_i inhabited
    simpa using inhabited

/-- A tool's turn is one result, under the id its call has on the wire. -/
theorem buildToolMessage_ok {toolMessage : ConverseMessage}
    (built : buildToolMessage provider message = .ok toolMessage) :
    ∃ content, content ≠ [] ∧ toolMessage =
      ⟨.user, [.toolResult ⟨sanitizeToolId (message.toolCallId.getD ""), content, none⟩]⟩ := by
  unfold buildToolMessage at built
  cases answered : message.toolCallId.filter fun id => id ≠ "" with
  | none =>
    rw [answered] at built
    cases built
  | some id =>
    rw [answered] at built
    have stands := (Option.filter_eq_some_iff.mp answered).1
    obtain ⟨results, content, rfl⟩ := bind_pure_ok built
    rw [stands]
    exact ⟨_, ensureMinToolResultContent_ne_nil results, rfl⟩

theorem map_run_pushOrCoalesce (out : List ConverseMessage) (role : ConverseRole)
    (blocks : List ConverseContentBlock) :
    (pushOrCoalesce out role blocks).map ConverseMessage.run =
      KeyedRun.push (out.map ConverseMessage.run) ⟨role, blocks⟩ := by
  unfold pushOrCoalesce KeyedRun.push
  rw [List.getLast?_map]
  cases out.getLast? with
  | none => simp [ConverseMessage.run]
  | some last =>
    by_cases same : last.role = role
    · simp [ConverseMessage.run, same, List.map_dropLast]
    · simp [ConverseMessage.run, same]

/-- A run pushed, unless it is empty. -/
def pushRun (out : List ConverseMessage) (run : BlockRun) : List ConverseMessage :=
  pushUnlessEmpty out run.key run.items

theorem translateMessage_eq (out : List ConverseMessage) (message : Message) :
    translateMessage provider read out message =
      (turnRun provider read message).map (pushRun out) := by
  unfold translateMessage turnRun
  cases message.role with
  | system => rfl
  | user => cases buildUserTurn provider message <;> rfl
  | assistant => cases buildAssistantContentBlocks provider read message <;> rfl
  | other tag => cases buildUserTurn provider message <;> rfl
  | tool =>
    cases built : buildToolMessage provider message with
    | error failure => rfl
    | ok toolMessage =>
      obtain ⟨content, -, rfl⟩ := buildToolMessage_ok built
      rfl

theorem map_run_foldl_pushRun (out : List ConverseMessage) (runs : List BlockRun) :
    (runs.foldl pushRun out).map ConverseMessage.run =
      (runs.filter fun run => !run.items.isEmpty).foldl KeyedRun.push
        (out.map ConverseMessage.run) := by
  induction runs generalizing out with
  | nil => rfl
  | cons run runs ih =>
    rw [List.foldl_cons, ih]
    cases empty : run.items.isEmpty with
    | true => simp [pushRun, pushUnlessEmpty, empty]
    | false => simp [pushRun, pushUnlessEmpty, empty, map_run_pushOrCoalesce]

theorem translateMessages_eq (messages : List Message) :
    translateMessages provider read messages =
      (messages.mapM (turnRun provider read)).map fun runs => runs.foldl pushRun [] := by
  have each : translateMessage provider read =
      fun out message => (turnRun provider read message).map (pushRun out) := by
    funext out message
    exact translateMessage_eq out message
  rw [translateMessages, each, foldlM_visit_eq]

/-- A translation is the turns' own blocks put together, empty turns left out. -/
theorem translateMessages_ok_iff : translateMessages provider read messages = .ok out ↔
    ∃ runs, List.Forall₂ (fun turn run => turnRun provider read turn = .ok run) messages runs ∧
      out.map ConverseMessage.run = KeyedRun.coalesce runs := by
  rw [translateMessages_eq]
  constructor
  · intro translated
    obtain ⟨runs, visited, rfl⟩ := bind_pure_ok translated
    exact ⟨runs, mapM_ok_iff.mp visited, map_run_foldl_pushRun [] runs⟩
  · intro split
    obtain ⟨runs, turns, same⟩ := split
    rw [mapM_ok_iff.mpr turns]
    have pushed := map_run_foldl_pushRun [] runs
    exact congrArg Except.ok (List.map_injective_iff.mpr run_injective (pushed.trans same.symm))

/-- What comes out alternates, leaves no message empty and tells the turns' blocks in order, and
nothing else does. -/
theorem translation_coalesces_iff : translateMessages provider read messages = .ok out ↔
    ∃ runs, List.Forall₂ (fun turn run => turnRun provider read turn = .ok run) messages runs ∧
      (out.IsChain fun before after => before.role ≠ after.role) ∧
      (∀ wire ∈ out, wire.content ≠ []) ∧
      KeyedRun.told (out.map ConverseMessage.run) = KeyedRun.told runs := by
  rw [translateMessages_ok_iff]
  apply exists_congr
  intro runs
  apply and_congr_right
  intro _
  rw [eq_comm, KeyedRun.coalesce_eq_iff]
  constructor
  · intro kept
    obtain ⟨coalesced, told⟩ := kept
    refine ⟨?_, ?_, told⟩
    · have chain := coalesced.alternating
      rw [List.isChain_map] at chain
      exact chain
    · intro wire member
      exact coalesced.inhabited wire.run (List.mem_map_of_mem member)
  · intro kept
    obtain ⟨alternating, inhabited, told⟩ := kept
    refine ⟨⟨?_, ?_⟩, told⟩
    · rw [List.isChain_map]
      exact alternating
    · intro run member
      obtain ⟨wire, there, rfl⟩ := List.mem_map.mp member
      exact inhabited wire there

end Coalescing
/-! ### Refusals -/

def contentParts : MessageContent → List ContentPart
  | .parts parts => parts
  | _ => []

section Refusals
variable {provider : String} {read : String → Option Json} {source : Json} {Made Other : Type}

theorem filledField_eq_some_iff {object : Json} {name value : String} :
    filledField object name = some value ↔ object.stringField name = some value ∧ value ≠ "" := by
  simp [filledField, Option.filter_eq_some_iff]

end Refusals

/-! ### What the wire accepts -/

def imageFormats : List String := ["png", "jpeg", "gif", "webp"]

def documentFormats : List String :=
  ["pdf", "csv", "doc", "docx", "xls", "xlsx", "html", "txt", "md"]

/-- The names the wire takes: its own characters, no two spaces in a row and none at an end. -/
structure LegalName (name : List Char) : Prop where
  inhabited : name ≠ []
  bounded : name.length ≤ documentNameMaxLen
  characters : ∀ character ∈ name, character = ' ' ∨ isDocumentNameChar character = true
  single : name.IsChain fun before after => before ≠ ' ' ∨ after ≠ ' '
  opens : name.head? ≠ some ' '
  closes : name.getLast? ≠ some ' '

def isCachePoint : ConverseContentBlock → Bool
  | .cachePoint _ => true
  | _ => false

/-- A block that carries what its kind asks for. -/
def Carries : ConverseContentBlock → Prop
  | .image image => image.format ∈ imageFormats ∧ image.bytes ≠ ""
  | .document document => document.format ∈ documentFormats ∧ LegalName document.name.toList ∧
      document.bytes ≠ "" ∧ document.citations ≠ some false
  | .toolResult result => result.content ≠ []
  | .reasoningContent (.reasoningText _ signature) => ∃ signed, signature = some signed ∧ signed ≠ ""
  | .cachePoint point => point.kind = "default" ∧ point.ttl.isSome = true
  | _ => True

/-- Every marker stands right behind a block of its own. -/
inductive Anchored : List ConverseContentBlock → Prop
  | nil : Anchored []
  | plain (block : ConverseContentBlock) (rest : List ConverseContentBlock) :
      isCachePoint block = false → Anchored rest → Anchored (block :: rest)
  | marked (block : ConverseContentBlock) (point : CachePoint) (rest : List ConverseContentBlock) :
      isCachePoint block = false → Anchored rest → Anchored (block :: .cachePoint point :: rest)

structure Acceptable (message : ConverseMessage) : Prop where
  inhabited : message.content ≠ []
  carries : ∀ block ∈ message.content, Carries block
  anchored : Anchored message.content
  sibling : message.role = .user → message.content.any isDocument = true →
    message.content.any isText = true

section Names
variable {text collapsed rest front : List Char}

/-- What a legal name shares with every list of characters it begins with. -/
structure Spaced (text : List Char) : Prop where
  characters : ∀ character ∈ text, character = ' ' ∨ isDocumentNameChar character = true
  single : text.IsChain fun before after => before ≠ ' ' ∨ after ≠ ' '
  opens : text.head? ≠ some ' '

theorem LegalName.spaced (legal : LegalName text) : Spaced text :=
  ⟨legal.characters, legal.single, legal.opens⟩

theorem Spaced.of_prefix (spaced : Spaced text) (begins : front <+: text) : Spaced front := by
  obtain ⟨rest, rfl⟩ := begins
  refine ⟨fun character member => spaced.characters character (List.mem_append_left _ member),
    (List.isChain_append.mp spaced.single).1, ?_⟩
  cases front with
  | nil => exact fun same => by cases same
  | cons character front => exact spaced.opens

theorem isDocumentNameChar_eq (character : Char) : isDocumentNameChar character =
    (decide (65 ≤ character.val ∧ character.val ≤ 90) ||
      decide (97 ≤ character.val) && decide (character.val ≤ 122) ||
      decide (48 ≤ character.val) && decide (character.val ≤ 57) || character = '-' ||
      character = '(' || character = ')' || character = '[' || character = ']') := rfl

theorem isWhitespace_of_isDocumentNameChar {character : Char}
    (kept : isDocumentNameChar character = true) : Oauth.isWhitespace character = false := by
  simp only [isDocumentNameChar_eq, UInt32.le_iff_toNat_le, Bool.or_eq_true, Bool.and_eq_true,
    decide_eq_true_eq] at kept
  simp only [Oauth.isWhitespace, Char.toNat]
  obtain ((((range | rfl) | rfl) | rfl) | rfl) | rfl := kept
  · simp at range ⊢
    omega
  all_goals rfl

theorem Spaced.space {character : Char} (spaced : Spaced text) (member : character ∈ text) :
    Oauth.isWhitespace character = true ↔ character = ' ' := by
  constructor
  · intro blank
    obtain space | kept := spaced.characters character member
    · exact space
    · rw [isWhitespace_of_isDocumentNameChar kept] at blank
      cases blank
  · intro space
    rw [space]
    rfl

theorem Spaced.snoc {character : Char} (spaced : Spaced collapsed)
    (closes : collapsed.getLast? ≠ some ' ') (pendingSpace : Bool)
    (pending : pendingSpace = true → collapsed ≠ [])
    (kept : isDocumentNameChar character = true) :
    Spaced ((if pendingSpace then collapsed ++ [' '] else collapsed) ++ [character]) ∧
      ((if pendingSpace then collapsed ++ [' '] else collapsed) ++ [character]).getLast? ≠
        some ' ' := by
  have solid : character ≠ ' ' := by
    intro same
    subst same
    cases kept
  refine ⟨?_, by simpa using solid⟩
  cases pendingSpace with
  | false =>
    refine ⟨?_, ?_, ?_⟩
    · intro other member
      obtain early | late := List.mem_append.mp member
      · exact spaced.characters other early
      · obtain rfl := List.mem_singleton.mp late
        exact .inr kept
    · refine List.isChain_append.mpr ⟨spaced.single, List.isChain_singleton _, ?_⟩
      intro before _ after first
      obtain rfl : character = after := by simpa using first
      exact .inr solid
    · cases collapsed with
      | nil => simpa using solid
      | cons first more => exact spaced.opens
  | true =>
    refine ⟨?_, ?_, ?_⟩
    · intro other member
      simp only [if_true, List.mem_append, List.mem_singleton] at member
      obtain (early | rfl) | rfl := member
      · exact spaced.characters other early
      · exact .inl rfl
      · exact .inr kept
    · have spacing : (collapsed ++ [' ']).IsChain fun before after => before ≠ ' ' ∨ after ≠ ' ' := by
        refine List.isChain_append.mpr ⟨spaced.single, List.isChain_singleton _, ?_⟩
        intro before last after _
        exact .inl fun same => closes (same ▸ last)
      refine List.isChain_append.mpr ⟨spacing, List.isChain_singleton _, ?_⟩
      intro before _ after first
      obtain rfl : character = after := by simpa using first
      exact .inr solid
    · cases collapsed with
      | nil => exact absurd rfl (pending rfl)
      | cons first more => exact spaced.opens

/-- The characters so far are a name but for its length, and so they stay. -/
theorem spaced_collapseName (spaced : Spaced collapsed) (closes : collapsed.getLast? ≠ some ' ')
    (pendingSpace : Bool) (pending : pendingSpace = true → collapsed ≠ []) (rest : List Char) :
    Spaced (collapseName collapsed pendingSpace rest) := by
  induction rest generalizing collapsed pendingSpace with
  | nil => exact spaced
  | cons character rest ih =>
    rw [collapseName]
    cases blank : Oauth.isWhitespace character with
    | true =>
      rw [if_pos rfl]
      refine ih spaced closes _ ?_
      intro waits
      cases collapsed with
      | nil => cases waits
      | cons first more => exact List.cons_ne_nil _ _
    | false =>
      rw [if_neg Bool.false_ne_true]
      have kept : isDocumentNameChar (if isDocumentNameChar character then character else '-') =
          true := by
        by_cases own : isDocumentNameChar character = true
        · rw [if_pos own]
          exact own
        · rw [if_neg own]
          rfl
      obtain ⟨next, ends⟩ := spaced.snoc closes pendingSpace pending kept
      exact ih next ends false fun waits => by cases waits

theorem trimEnd_begins (text : List Char) : trimEnd text <+: text := by
  have suffix : (text.reverse.dropWhile Oauth.isWhitespace) <:+ text.reverse :=
    List.dropWhile_suffix _
  have begins := List.reverse_prefix.mpr suffix
  rwa [List.reverse_reverse] at begins

theorem trimEnd_closes (text : List Char) : (trimEnd text).getLast? ≠ some ' ' := by
  intro ends
  unfold trimEnd at ends
  rw [List.getLast?_reverse] at ends
  have stops := List.head?_dropWhile_not Oauth.isWhitespace text.reverse
  rw [ends] at stops
  cases stops

theorem legal_sanitizeDocumentName (title : Option String) :
    LegalName (sanitizeDocumentName title).toList := by
  have empty : Spaced ([] : List Char) :=
    ⟨fun character member => absurd member List.not_mem_nil, List.isChain_nil,
      fun same => by cases same⟩
  have collapsed := spaced_collapseName empty (fun same => by cases same) false
    (fun waits => by cases waits) (title.getD "").toList
  have truncated := collapsed.of_prefix (List.take_prefix documentNameMaxLen _)
  have spaced := truncated.of_prefix (trimEnd_begins _)
  simp only [sanitizeDocumentName]
  cases inhabited : (trimEnd ((collapseName [] false (title.getD "").toList).take
      documentNameMaxLen)).isEmpty with
  | true =>
    rw [if_pos rfl]
    have kept : documentNameFallback.toList.all isDocumentNameChar = true := by decide
    exact ⟨by decide, by decide,
      fun character member => .inr (List.all_eq_true.mp kept character member),
      by simp [documentNameFallback], by decide, by decide⟩
  | false =>
    rw [if_neg Bool.false_ne_true, String.toList_ofList]
    refine ⟨by simpa using inhabited, ?_, spaced.characters, spaced.single, spaced.opens,
      trimEnd_closes _⟩
    exact (trimEnd_begins _).length_le.trans (List.length_take_le _ _)

/-- Nothing is lost of characters that are a name already. -/
theorem collapseName_of_spaced (pendingSpace : Bool)
    (pending : pendingSpace = true → collapsed ≠ [] ∧ rest ≠ [] ∧ rest.head? ≠ some ' ')
    (spaced : Spaced ((if pendingSpace then collapsed ++ [' '] else collapsed) ++ rest))
    (closes : ((if pendingSpace then collapsed ++ [' '] else collapsed) ++ rest).getLast? ≠
      some ' ') :
    collapseName collapsed pendingSpace rest =
      (if pendingSpace then collapsed ++ [' '] else collapsed) ++ rest := by
  induction rest generalizing collapsed pendingSpace with
  | nil =>
    cases pendingSpace with
    | false => simp [collapseName]
    | true => exact absurd rfl (pending rfl).2.1
  | cons character rest ih =>
    rw [collapseName]
    have blank : Oauth.isWhitespace character = true ↔ character = ' ' :=
      spaced.space (by simp)
    by_cases space : character = ' '
    · subst space
      cases pendingSpace with
      | true => exact absurd rfl (pending rfl).2.2
      | false =>
        rw [if_pos (blank.mpr rfl)]
        have begun : collapsed ≠ [] := by
          intro same
          subst same
          exact spaced.opens rfl
        have waits : (!collapsed.isEmpty) = true := by simpa using begun
        have split : (if (false : Bool) = true then collapsed ++ [' '] else collapsed) ++ ' ' :: rest =
            (if (true : Bool) = true then collapsed ++ [' '] else collapsed) ++ rest := by simp
        rw [split] at spaced closes
        rw [waits, split]
        refine ih true ?_ spaced closes
        intro _
        refine ⟨begun, ?_, ?_⟩
        · intro ended
          subst ended
          simp at closes
        · intro another
          cases rest with
          | nil => cases another
          | cons next rest =>
            obtain rfl : next = ' ' := by simpa using another
            have chain := (List.isChain_append.mp spaced.single).2.2
            obtain before | after := chain ' ' (by simp) ' ' (by simp)
            · exact before rfl
            · exact after rfl
    · have solid : ¬ Oauth.isWhitespace character = true := fun same => space (blank.mp same)
      obtain own | kept := spaced.characters character (by simp)
      · exact absurd own space
      · rw [if_neg solid, if_pos kept]
        have split : (if pendingSpace then collapsed ++ [' '] else collapsed) ++ character :: rest =
            ((if pendingSpace then collapsed ++ [' '] else collapsed) ++ [character]) ++ rest := by
          simp
        rw [split] at spaced closes ⊢
        exact ih false (fun waits => by cases waits) spaced closes

theorem trimEnd_of_closes (spaced : Spaced text) (closes : text.getLast? ≠ some ' ') :
    trimEnd text = text := by
  unfold trimEnd
  have stays : text.reverse.dropWhile Oauth.isWhitespace = text.reverse := by
    cases backwards : text.reverse with
    | nil => rfl
    | cons last before =>
      have ends : text.getLast? = some last := by
        rw [← List.head?_reverse, backwards]
        rfl
      have member : last ∈ text := List.mem_of_getLast? ends
      have solid : Oauth.isWhitespace last = false := by
        by_contra blank
        have space := (spaced.space member).mp (by simpa using blank)
        exact closes (space ▸ ends)
      rw [List.dropWhile_cons, solid]
      rfl
  rw [stays, List.reverse_reverse]

/-- The names that go out are the legal ones, and a legal name goes out as it is. -/
theorem document_names_legal (title : Option String) (name : String) :
    LegalName (sanitizeDocumentName title).toList ∧
      (sanitizeDocumentName (some name) = name ↔ LegalName name.toList) := by
  refine ⟨legal_sanitizeDocumentName title, ?_⟩
  constructor
  · intro same
    rw [← same]
    exact legal_sanitizeDocumentName (some name)
  · intro legal
    have collapsed : collapseName [] false name.toList = name.toList :=
      collapseName_of_spaced false (fun waits => by cases waits) legal.spaced legal.closes
    have kept : trimEnd (name.toList.take documentNameMaxLen) = name.toList := by
      rw [List.take_of_length_le legal.bounded]
      exact trimEnd_of_closes legal.spaced legal.closes
    have holds : name.toList.isEmpty = false := by simpa using legal.inhabited
    simp only [sanitizeDocumentName, Option.getD_some, collapsed, kept, holds]
    exact String.ofList_toList

end Names
section Blocks
variable {provider : String} {read : String → Option Json} {source : Json}
variable {block : ConverseContentBlock} {part : ContentPart} {message : Message}
variable {blocks others : List ConverseContentBlock}

theorem mediaTypeToImageFormat_mem {mediaType format : String}
    (known : mediaTypeToImageFormat mediaType = some format) : format ∈ imageFormats := by
  unfold mediaTypeToImageFormat at known
  split at known <;> cases known <;> decide

theorem mediaTypeToDocumentFormat_mem {mediaType format : String}
    (known : mediaTypeToDocumentFormat mediaType = some format) : format ∈ documentFormats := by
  unfold mediaTypeToDocumentFormat at known
  split at known <;> cases known <;> decide

theorem filledField_ne_empty {object : Json} {name value : String}
    (filled : filledField object name = some value) : value ≠ "" :=
  (filledField_eq_some_iff.mp filled).2

theorem translateImageSource_image
    (translated : translateImageSource provider source = .ok (some block)) :
    ∃ image, block = .image image ∧ Carries (.image image) := by
  unfold translateImageSource at translated
  split at translated
  · cases translated
  · split at translated
    · cases translated
    · split at translated
      · cases translated
      · split at translated
        · cases translated
        · split at translated
          · cases translated
          · split at translated
            · cases translated
            · rename_i data payload
              obtain ⟨format, known, rfl⟩ := Option.map_eq_some_iff.mp (Except.ok.inj translated)
              exact ⟨_, rfl, mediaTypeToImageFormat_mem known, filledField_ne_empty payload⟩

theorem translateImageUrl_image {imageUrl : Json}
    (translated : translateImageUrl provider imageUrl = .ok (some block)) :
    ∃ image, block = .image image ∧ Carries (.image image) := by
  unfold translateImageUrl at translated
  split at translated
  · cases translated
  · split at translated
    · cases translated
    · split at translated
      · cases translated
      · rename_i inhabited
        obtain ⟨format, known, rfl⟩ := Option.map_eq_some_iff.mp (Except.ok.inj translated)
        exact ⟨_, rfl, mediaTypeToImageFormat_mem known, inhabited⟩

theorem base64Encode_ne_nil {bytes : List UInt8} (inhabited : bytes ≠ []) :
    base64Encode bytes ≠ [] := by
  cases bytes with
  | nil => exact absurd rfl inhabited
  | cons first rest =>
    cases rest with
    | nil => exact List.cons_ne_nil _ _
    | cons second rest =>
      cases rest with
      | nil => exact List.cons_ne_nil _ _
      | cons third rest => exact List.cons_ne_nil _ _

theorem normalizeDocumentSourceBytes_ne_empty {kind : DocumentSourceKind} {data : String}
    (payload : data ≠ "") : normalizeDocumentSourceBytes kind data ≠ "" := by
  cases kind with
  | base64 => exact payload
  | text =>
    have characters : data.toList ≠ [] := by
      intro same
      exact payload (String.toList_eq_nil_iff.mp same)
    have bytes : Json.encoded data.toList ≠ [] := by
      obtain ⟨first, rest, same⟩ := List.exists_cons_of_ne_nil characters
      rw [same]
      intro empty
      rw [Json.encoded_cons] at empty
      exact String.utf8EncodeChar_ne_nil (List.append_eq_nil_iff.mp empty).1
    intro same
    have encoded := congrArg String.toList same
    rw [normalizeDocumentSourceBytes, String.toList_ofList] at encoded
    exact base64Encode_ne_nil bytes encoded

theorem translateDocumentCitations_ne (citations : Option Json) :
    translateDocumentCitations citations ≠ some false := by
  unfold translateDocumentCitations
  split
  · exact fun same => by cases same
  · exact fun same => by cases same

theorem translateDocument_document {title : Option String} {citations : Option Json}
    (translated : translateDocument provider source title citations = .ok (some block)) :
    ∃ document, block = .document document ∧ Carries (.document document) := by
  unfold translateDocument at translated
  split at translated
  · cases translated
  · split at translated
    · cases translated
    · split at translated
      · cases translated
      · split at translated
        · cases translated
        · split at translated
          · cases translated
          · rename_i data payload
            obtain ⟨format, known, rfl⟩ := Option.map_eq_some_iff.mp (Except.ok.inj translated)
            exact ⟨_, rfl, mediaTypeToDocumentFormat_mem known, legal_sanitizeDocumentName title,
              normalizeDocumentSourceBytes_ne_empty (filledField_ne_empty payload),
              translateDocumentCitations_ne citations⟩

/-- The block of a part carries what it has to, and is no marker. -/
theorem translateContentPart_carries
    (translated : translateContentPart provider part = .ok (some block)) :
    Carries block ∧ isCachePoint block = false := by
  cases part with
  | other typeTag control extras =>
    cases translated
    exact ⟨trivial, rfl⟩
  | known part =>
    cases part with
    | image source control =>
      obtain ⟨image, rfl, carries⟩ := translateImageSource_image translated
      exact ⟨carries, rfl⟩
    | imageUrl imageUrl control =>
      obtain ⟨image, rfl, carries⟩ := translateImageUrl_image translated
      exact ⟨carries, rfl⟩
    | document source title citations control =>
      obtain ⟨document, rfl, carries⟩ := translateDocument_document translated
      exact ⟨carries, rfl⟩
    | file file control =>
      simp only [translateContentPart, translateKnownPart] at translated
      split at translated
      · obtain ⟨document, rfl, carries⟩ := translateDocument_document translated
        exact ⟨carries, rfl⟩
      · cases translated
    | toolResult toolUseId content isError control =>
      simp only [translateContentPart, translateKnownPart] at translated
      obtain ⟨results', results, same⟩ := bind_pure_ok translated
      obtain rfl := Option.some.inj same
      exact ⟨ensureMinToolResultContent_ne_nil results', rfl⟩
    | thinking thinking signature =>
      simp only [translateContentPart, translateKnownPart] at translated
      split at translated
      · cases translated
      · rename_i signed held
        cases translated
        have named := (Option.filter_eq_some_iff.mp held).2
        exact ⟨⟨signed, rfl, by simpa using named⟩, rfl⟩
    | text text citations control =>
      cases translated
      exact ⟨trivial, rfl⟩
    | toolUse id name input control =>
      cases translated
      exact ⟨trivial, rfl⟩
    | redactedThinking data =>
      cases translated
      exact ⟨trivial, rfl⟩

theorem Anchored.append (first : Anchored blocks) (second : Anchored others) :
    Anchored (blocks ++ others) := by
  induction first with
  | nil => exact second
  | plain block rest solid _ ih => exact .plain block (rest ++ others) solid ih
  | marked block point rest solid _ ih => exact .marked block point (rest ++ others) solid ih

theorem anchored_of_solid (solid : ∀ block ∈ blocks, isCachePoint block = false) :
    Anchored blocks := by
  induction blocks with
  | nil => exact .nil
  | cons block rest ih =>
    exact .plain block rest (solid block List.mem_cons_self)
      (ih fun other member => solid other (List.mem_cons_of_mem _ member))

/-- Blocks that carry what they have to, their markers behind them. -/
structure Sound (blocks : List ConverseContentBlock) : Prop where
  carries : ∀ block ∈ blocks, Carries block
  anchored : Anchored blocks

theorem Sound.nil : Sound [] := ⟨fun _ member => absurd member List.not_mem_nil, .nil⟩

theorem Sound.append (first : Sound blocks) (second : Sound others) : Sound (blocks ++ others) := by
  refine ⟨?_, first.anchored.append second.anchored⟩
  intro block member
  obtain early | late := List.mem_append.mp member
  · exact first.carries block early
  · exact second.carries block late

theorem sound_of_solid (carries : ∀ block ∈ blocks, Carries block)
    (solid : ∀ block ∈ blocks, isCachePoint block = false) : Sound blocks :=
  ⟨carries, anchored_of_solid solid⟩

theorem sound_flatten {groups : List (List ConverseContentBlock)}
    (sound : ∀ group ∈ groups, Sound group) : Sound groups.flatten := by
  induction groups with
  | nil => exact .nil
  | cons group groups ih =>
    exact (sound group List.mem_cons_self).append
      (ih fun other member => sound other (List.mem_cons_of_mem _ member))

theorem partBlocks_sound (made : partBlocks provider part = .ok blocks) : Sound blocks := by
  unfold partBlocks at made
  cases translated : translateContentPart provider part with
  | error failure =>
    rw [translated] at made
    cases made
  | ok outcome =>
    rw [translated] at made
    cases outcome with
    | none =>
      cases made
      exact .nil
    | some block =>
      cases made
      obtain ⟨carries, solid⟩ := translateContentPart_carries translated
      dsimp only
      cases Cache.partControl part with
      | none =>
        exact sound_of_solid (by simpa using carries) (by simpa using solid)
      | some control =>
        refine ⟨?_, .marked block _ [] solid .nil⟩
        intro other member
        obtain rfl | marker := List.mem_cons.mp member
        · exact carries
        · obtain rfl := List.mem_singleton.mp marker
          exact ⟨rfl, rfl⟩

theorem contentBlocksFromParts_sound {parts : List ContentPart}
    (made : contentBlocksFromParts provider parts = .ok blocks) : Sound blocks := by
  unfold contentBlocksFromParts at made
  obtain ⟨groups, walked, rfl⟩ := bind_pure_ok made
  apply sound_flatten
  intro group member
  obtain ⟨part, -, visited⟩ := mapM_made walked member
  exact partBlocks_sound visited

theorem sound_singleton_text (text : String) : Sound [.text text] :=
  sound_of_solid (by simp [Carries]) (by simp [isCachePoint])

theorem contentBlocksWithCacheControl_sound {content : MessageContent}
    (made : contentBlocksWithCacheControl provider content = .ok blocks) : Sound blocks := by
  cases content with
  | text text =>
    cases made
    exact sound_singleton_text text
  | null =>
    cases made
    exact .nil
  | parts parts => exact contentBlocksFromParts_sound made

theorem emitReasoningBlock_sound {detail : ReasoningDetail}
    (emitted : emitReasoningBlock detail = some block) :
    Carries block ∧ isCachePoint block = false := by
  unfold emitReasoningBlock at emitted
  split at emitted
  · split at emitted
    · cases emitted
    · dsimp only at emitted
      split at emitted
      · cases emitted
      · rename_i signed
        cases emitted
        exact ⟨⟨_, rfl, signed⟩, rfl⟩
  · split at emitted
    · cases emitted
    · cases emitted
      exact ⟨trivial, rfl⟩
  · cases emitted
  · cases emitted

theorem emitReasoningBlocksConverse_sound (details : List ReasoningDetail) :
    Sound (emitReasoningBlocksConverse details) := by
  have each : ∀ block ∈ emitReasoningBlocksConverse details,
      Carries block ∧ isCachePoint block = false := by
    intro block member
    obtain ⟨detail, -, emitted⟩ := List.mem_filterMap.mp member
    exact emitReasoningBlock_sound emitted
  exact sound_of_solid (fun block member => (each block member).1)
    fun block member => (each block member).2

theorem appendConverseContentBlocks_sound {content : MessageContent}
    (made : appendConverseContentBlocks provider content = .ok blocks) : Sound blocks := by
  cases content with
  | text text =>
    cases made
    split
    · exact .nil
    · exact sound_singleton_text text
  | null =>
    cases made
    exact .nil
  | parts parts => exact contentBlocksFromParts_sound made

theorem toolUseBlocksFromCalls_sound (message : Message) :
    Sound (toolUseBlocksFromCalls read message) := by
  have each : ∀ block ∈ toolUseBlocksFromCalls read message, ∃ call, block = .toolUse call := by
    intro block member
    unfold toolUseBlocksFromCalls at member
    split at member
    · cases member
    · obtain ⟨call, -, rfl⟩ := List.mem_map.mp member
      exact ⟨_, rfl⟩
  apply sound_of_solid
  · intro block member
    obtain ⟨call, rfl⟩ := each block member
    exact trivial
  · intro block member
    obtain ⟨call, rfl⟩ := each block member
    rfl

theorem spokenBlocks_sound (made : spokenBlocks provider message = .ok blocks) : Sound blocks := by
  unfold spokenBlocks at made
  split at made
  · split at made
    · exact contentBlocksFromParts_sound made
    · exact contentBlocksWithCacheControl_sound made
  · cases content : appendConverseContentBlocks provider message.content with
    | error failure =>
      rw [content] at made
      cases made
    | ok appended =>
      rw [content] at made
      cases made
      exact (emitReasoningBlocksConverse_sound _).append (appendConverseContentBlocks_sound content)

theorem buildAssistantContentBlocks_sound
    (made : buildAssistantContentBlocks provider read message = .ok blocks) : Sound blocks := by
  unfold buildAssistantContentBlocks at made
  obtain ⟨said, spoken, rfl⟩ := bind_pure_ok made
  exact (spokenBlocks_sound spoken).append (toolUseBlocksFromCalls_sound message)

/-- A document has a text beside it. -/
def Companied (blocks : List ConverseContentBlock) : Prop :=
  blocks.any isDocument = true → blocks.any isText = true

theorem Companied.append (first : Companied blocks) (second : Companied others) :
    Companied (blocks ++ others) := by
  intro present
  rw [List.any_append, Bool.or_eq_true] at present ⊢
  obtain early | late := present
  · exact .inl (first early)
  · exact .inr (second late)

theorem ensureDocumentHasTextSibling_companied (blocks : List ConverseContentBlock) :
    Companied (ensureDocumentHasTextSibling blocks) := by
  unfold ensureDocumentHasTextSibling
  split
  · intro _
    rfl
  · rename_i settled
    intro present
    by_contra silent
    exact settled (by simp [present, silent])

theorem ensureDocumentHasTextSibling_sound (sound : Sound blocks) :
    Sound (ensureDocumentHasTextSibling blocks) := by
  unfold ensureDocumentHasTextSibling
  split
  · exact (sound_singleton_text "").append sound
  · exact sound

theorem buildUserTurn_sound (made : buildUserTurn provider message = .ok blocks) :
    Sound blocks ∧ Companied blocks := by
  unfold buildUserTurn at made
  obtain ⟨said, content, rfl⟩ := bind_pure_ok made
  exact ⟨ensureDocumentHasTextSibling_sound (contentBlocksWithCacheControl_sound content),
    ensureDocumentHasTextSibling_companied said⟩

/-- What a turn keeps of the wire's rules, joined or alone. -/
def Lawful (role : ConverseRole) (blocks : List ConverseContentBlock) : Prop :=
  Sound blocks ∧ (role = .user → Companied blocks)

theorem turnRun_lawful {run : BlockRun} (made : turnRun provider read message = .ok run) :
    Lawful run.key run.items := by
  have users : ∀ {run : BlockRun},
      (buildUserTurn provider message).map (fun blocks => (⟨.user, blocks⟩ : BlockRun)) = .ok run →
      Lawful run.key run.items := by
    intro run mapped
    obtain ⟨blocks, user, rfl⟩ := map_ok mapped
    obtain ⟨sound, companied⟩ := buildUserTurn_sound user
    exact ⟨sound, fun _ => companied⟩
  unfold turnRun at made
  cases role : message.role with
  | system =>
    rw [role] at made
    cases made
    exact ⟨.nil, fun _ present => by cases present⟩
  | user =>
    rw [role] at made
    exact users made
  | other tag =>
    rw [role] at made
    exact users made
  | assistant =>
    rw [role] at made
    obtain ⟨blocks, said, rfl⟩ := map_ok made
    exact ⟨buildAssistantContentBlocks_sound said, fun same => by cases same⟩
  | tool =>
    rw [role] at made
    obtain ⟨toolMessage, built, rfl⟩ := map_ok made
    obtain ⟨content, inhabited, rfl⟩ := buildToolMessage_ok built
    refine ⟨?_, fun _ present => by cases present⟩
    exact sound_of_solid (by simpa [ConverseMessage.run, Carries] using inhabited)
      (by simp [ConverseMessage.run, isCachePoint])

/-- Every message that goes out is of a shape the wire accepts. -/
theorem translated_acceptable {messages : List Message} {out : List ConverseMessage}
    (translated : translateMessages provider read messages = .ok out) :
    ∀ wire ∈ out, Acceptable wire := by
  obtain ⟨runs, turns, same⟩ := translateMessages_ok_iff.mp translated
  intro wire member
  have there : wire.run ∈ KeyedRun.coalesce runs := same ▸ List.mem_map_of_mem member
  have inhabited := (KeyedRun.coalesce_coalesced runs).inhabited wire.run there
  have lawful : ∀ run ∈ runs, Lawful run.key run.items := by
    intro run held
    obtain ⟨turn, -, made⟩ := mapM_made (mapM_ok_iff.mpr turns) held
    exact turnRun_lawful made
  obtain ⟨sound, companied⟩ := KeyedRun.forall_coalesce (fun _ _ _ before after =>
    ⟨before.1.append after.1, fun role => (before.2 role).append (after.2 role)⟩) lawful wire.run there
  exact ⟨inhabited, sound.carries, sound.anchored, companied⟩

def clockCall : Message :=
  { role := .assistant
    content := .parts [.known (.toolUse "call_1" "clock" (.object []) (some ⟨"ephemeral", none⟩))] }

def clockAnswer : Message :=
  { role := .tool, content := .text "noon", toolCallId := some "call_1" }

/-- A call under a marker, its answer, and a document with no text beside it. -/
def askedHistory : List Message :=
  [{ role := .user, content := .text "how late" }] ++ clockCall :: ([] ++ clockAnswer ::
    [{ role := .user
       content := .parts [.known (.document (.object [("type", .string "text"),
        ("media_type", .string "text/plain"), ("data", .string "on")])
        (some "day  plan_2") none none)] }])

def askedWire : List ConverseMessage :=
  [⟨.user, [.text "how late"]⟩,
    ⟨.assistant, [.toolUse ⟨"call_1", "clock", .object []⟩, .cachePoint ⟨"default", some "5m"⟩]⟩,
    ⟨.user, [.toolResult ⟨"call_1", [.text "noon"], none⟩, .text "",
      .document ⟨"txt", "day plan-2", "b24=", none⟩]⟩]

theorem translate_askedHistory :
    translateMessages "bedrock" (fun _ => none) askedHistory = .ok askedWire := rfl

theorem asked_wire_acceptable : askedWire ≠ [] ∧ ∀ wire ∈ askedWire, Acceptable wire :=
  ⟨List.cons_ne_nil _ _, translated_acceptable translate_askedHistory⟩

end Blocks
end Routectl.ConverseInput
