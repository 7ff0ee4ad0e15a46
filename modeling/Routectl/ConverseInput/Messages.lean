import Routectl.Cache.Breakpoints
import Routectl.History.Egress

/-! Canonical messages as the messages of a Converse request: two roles that must alternate,
markers as blocks of their own, and content that names no bytes refused. -/
namespace Routectl.ConverseInput
open Library
open Routectl.Schema (Role ReasoningDetail)
open Routectl.Trim (CacheControl KnownContentPart ContentPart MessageContent)
open Routectl.Replay (NormalizeRequest sanitizeToolId)
open Routectl.History (Message anthropicFormat toAsciiLowercase stripPrefix splitOnceAt)

/-! ### The wire -/

structure CachePoint where
  kind : String
  ttl : Option String

def CachePoint.defaultWithTtl (ttl : Option String) : CachePoint := ⟨"default", ttl⟩

structure ConverseImage where
  format : String
  bytes : String

/-- `citations` is the one member of its config. -/
structure ConverseDocument where
  format : String
  name : String
  bytes : String
  citations : Option Bool

inductive ConverseRequestReasoningBlock where
  | reasoningText (text : String) (signature : Option String)
  | redactedContent (redactedContent : String)

structure ConverseToolUse where
  toolUseId : String
  name : String
  input : Json

inductive ConverseToolResultContent where
  | text (text : String)
  | json (json : Json)
  | image (image : ConverseImage)
  | document (document : Json)

structure ConverseToolResult where
  toolUseId : String
  content : List ConverseToolResultContent
  status : Option String

inductive ConverseContentBlock where
  | text (text : String)
  | image (image : ConverseImage)
  | document (document : ConverseDocument)
  | toolUse (toolUse : ConverseToolUse)
  | toolResult (toolResult : ConverseToolResult)
  | cachePoint (cachePoint : CachePoint)
  | reasoningContent (reasoningContent : ConverseRequestReasoningBlock)
  | other (value : Json)

inductive ConverseRole where
  | user
  | assistant
deriving Repr, DecidableEq

structure ConverseMessage where
  role : ConverseRole
  content : List ConverseContentBlock

/-! ### Images -/

def filledField (object : Json) (name : String) : Option String :=
  (object.stringField name).filter (· ≠ "")

def isObject : Json → Bool
  | .object _ => true
  | _ => false

def mediaTypeToImageFormat (mediaType : String) : Option String :=
  match toAsciiLowercase mediaType.toList with
  | "image/png" => some "png"
  | "image/jpeg" => some "jpeg"
  | "image/jpg" => some "jpeg"
  | "image/gif" => some "gif"
  | "image/webp" => some "webp"
  | _ => none

section Images
variable (provider : String)

/-- What a field check refuses with: the part it stands in, the complaint and the field. -/
def unfilled (complaint field : String) : NormalizeRequest :=
  ⟨provider, complaint ++ ": " ++ field ++ " is absent, empty, or not a string"⟩

def onMessage (part : String) : String := part ++ " content part on a Converse message "

def inToolResult (block : String) : String := block ++ " block in a Converse tool result "

def translateImageSource (source : Json) :
    Except NormalizeRequest (Option ConverseContentBlock) :=
  if !isObject source then
    .error ⟨provider, onMessage "image" ++ "has a malformed source: source is not an object"⟩
  else
    match filledField source "type" with
    | none => .error (unfilled provider (onMessage "image" ++ "names no source shape") "source.type")
    | some kind =>
      if kind = "url" ∧ filledField source "url" = none then
        .error (unfilled provider (onMessage "image" ++ "has no usable url") "source.url")
      else if kind ≠ "base64" then .ok none
      else
        match filledField source "media_type" with
        | none =>
          .error (unfilled provider (onMessage "image" ++ "names no image format")
            "source.media_type")
        | some mediaType =>
          match filledField source "data" with
          | none =>
            .error (unfilled provider (onMessage "image" ++ "has an empty base64 payload")
              "source.data")
          | some data =>
            .ok ((mediaTypeToImageFormat mediaType).map fun format => .image ⟨format, data⟩)

/-- The media type and the payload where the url is a base64 data URI. -/
def inlineImage (url : String) : Option (String × String) := do
  let rest ← stripPrefix "data:".toList url.toList
  let (mediaType, payload) ← splitOnceAt ";base64,".toList rest
  pure (String.ofList mediaType, String.ofList payload)

def translateImageUrl (imageUrl : Json) :
    Except NormalizeRequest (Option ConverseContentBlock) :=
  match filledField imageUrl "url" with
  | none =>
    .error (unfilled provider (onMessage "image_url" ++ "has no usable url") "image_url.url")
  | some url =>
    match inlineImage url with
    | none => .ok none
    | some (mediaType, payload) =>
      if payload = "" then
        .error ⟨provider, onMessage "image_url" ++
          "has an empty base64 payload: image_url.url declares base64 and carries no bytes"⟩
      else .ok ((mediaTypeToImageFormat mediaType).map fun format => .image ⟨format, payload⟩)

/-- A source that is not read here rides along as JSON. -/
def imageSourceToToolResult (source : Json) :
    Except NormalizeRequest (Option ConverseToolResultContent) :=
  if filledField source "type" ≠ some "base64" then .ok none
  else
    match filledField source "media_type" with
    | none =>
      .error (unfilled provider (inToolResult "image" ++ "names no image format")
        "source.media_type")
    | some mediaType =>
      match filledField source "data" with
      | none =>
        .error (unfilled provider (inToolResult "image" ++ "has an empty base64 payload")
          "source.data")
      | some data =>
        .ok ((mediaTypeToImageFormat mediaType).map fun format => .image ⟨format, data⟩)

end Images

/-! ### Documents -/

def mediaTypeToDocumentFormat (mediaType : String) : Option String :=
  match toAsciiLowercase mediaType.toList with
  | "application/pdf" => some "pdf"
  | "text/csv" => some "csv"
  | "application/msword" => some "doc"
  | "application/vnd.openxmlformats-officedocument.wordprocessingml.document" => some "docx"
  | "application/vnd.ms-excel" => some "xls"
  | "application/vnd.openxmlformats-officedocument.spreadsheetml.sheet" => some "xlsx"
  | "text/html" => some "html"
  | "text/plain" => some "txt"
  | "text/markdown" => some "md"
  | _ => none

def documentNameMaxLen : Nat := 200
def documentNameFallback : String := "document"

def isDocumentNameChar (character : Char) : Bool :=
  character.isAlphanum || character = '-' || character = '(' || character = ')' ||
    character = '[' || character = ']'

/-- The title behind `collapsed`, a space pending where white space was passed. -/
def collapseName (collapsed : List Char) : Bool → List Char → List Char
  | _, [] => collapsed
  | pendingSpace, character :: rest =>
    if Oauth.isWhitespace character then collapseName collapsed (!collapsed.isEmpty) rest
    else
      collapseName
        ((if pendingSpace then collapsed ++ [' '] else collapsed) ++
          [if isDocumentNameChar character then character else '-']) false rest

def trimEnd (text : List Char) : List Char := (text.reverse.dropWhile Oauth.isWhitespace).reverse

def sanitizeDocumentName (title : Option String) : String :=
  let name := trimEnd ((collapseName [] false (title.getD "").toList).take documentNameMaxLen)
  if name.isEmpty then documentNameFallback else String.ofList name

inductive DocumentSourceKind where
  | base64
  | text
deriving Repr, DecidableEq

def documentSourceKind : String → Option DocumentSourceKind
  | "base64" => some .base64
  | "text" => some .text
  | _ => none

def base64Digit (value : Nat) : Char :=
  if value < 26 then Char.ofNat (value + 65)
  else if value < 52 then Char.ofNat (value + 71)
  else if value < 62 then Char.ofNat (value - 4)
  else if value = 62 then '+' else '/'

/-- The standard alphabet with padding, three bytes at a time. -/
def base64Encode : List UInt8 → List Char
  | [] => []
  | [first] =>
    [base64Digit (first.toNat / 4), base64Digit (first.toNat % 4 * 16), '=', '=']
  | [first, second] =>
    [base64Digit (first.toNat / 4), base64Digit (first.toNat % 4 * 16 + second.toNat / 16),
      base64Digit (second.toNat % 16 * 4), '=']
  | first :: second :: third :: rest =>
    base64Digit (first.toNat / 4) :: base64Digit (first.toNat % 4 * 16 + second.toNat / 16) ::
      base64Digit (second.toNat % 16 * 4 + third.toNat / 64) :: base64Digit (third.toNat % 64) ::
      base64Encode rest

def normalizeDocumentSourceBytes (kind : DocumentSourceKind) (data : String) : String :=
  match kind with
  | .base64 => data
  | .text => String.ofList (base64Encode (Json.encoded data.toList))

def translateDocumentCitations (citations : Option Json) : Option Bool :=
  match citations.bind (Json.field "enabled") with
  | some (.bool true) => some true
  | _ => none

section Documents
variable (provider : String)

def translateDocument (source : Json) (title : Option String) (citations : Option Json) :
    Except NormalizeRequest (Option ConverseContentBlock) :=
  if !isObject source then
    .error ⟨provider, onMessage "document" ++ "has a malformed source: source is not an object"⟩
  else
    match filledField source "type" with
    | none =>
      .error (unfilled provider (onMessage "document" ++ "names no source shape") "source.type")
    | some kind =>
      match documentSourceKind kind with
      | none => .ok none
      | some kind =>
        match filledField source "media_type" with
        | none =>
          .error (unfilled provider (onMessage "document" ++ "names no document format")
            "source.media_type")
        | some mediaType =>
          match filledField source "data" with
          | none =>
            .error (unfilled provider (onMessage "document" ++ "has an empty payload")
              "source.data")
          | some data =>
            .ok ((mediaTypeToDocumentFormat mediaType).map fun format =>
              .document
                { format
                  name := sanitizeDocumentName title
                  bytes := normalizeDocumentSourceBytes kind data
                  citations := translateDocumentCitations citations })

def toolResultDocumentValue (format : String) (title : Option String) (bytes : String)
    (citations : Option Json) : Json :=
  History.sortedObject
    ([("format", .string format), ("name", .string (sanitizeDocumentName title)),
      ("source", .object [("bytes", .string bytes)])] ++
      Trim.optional "citations"
        ((translateDocumentCitations citations).map fun enabled =>
          .object [("enabled", .bool enabled)]))

def documentToToolResult (source : Json) (title : Option String) (citations : Option Json) :
    Except NormalizeRequest (Option ConverseToolResultContent) :=
  match (source.stringField "type").bind documentSourceKind with
  | none => .ok none
  | some kind =>
    match filledField source "media_type" with
    | none =>
      .error (unfilled provider (inToolResult "document" ++ "names no document format")
        "source.media_type")
    | some mediaType =>
      match filledField source "data" with
      | none =>
        .error (unfilled provider (inToolResult "document" ++ "has an empty payload") "source.data")
      | some data =>
        .ok ((mediaTypeToDocumentFormat mediaType).map fun format =>
          .document (toolResultDocumentValue format title
            (normalizeDocumentSourceBytes kind data) citations))

/-- A file part as a document's source and title, a PDF only. -/
def fileDataToDocumentSource (file : Json) : Option (Json × Option String) := do
  let fileData ← file.stringField "file_data"
  let (mediaType, payload) ← History.dataUri fileData
  if payload = "" ∨ mediaType ≠ "application/pdf" then none
  else some (History.base64Source mediaType payload, file.stringField "filename")

end Documents

/-! ### Tool results -/

def ensureMinToolResultContent (content : List ConverseToolResultContent) :
    List ConverseToolResultContent :=
  if content.isEmpty then [.text ""] else content

/-- A part's fields as a map holds them; an extra takes the place of a field of its name. -/
def partFields : ContentPart → List (String × Json)
  | .known part => part.fields
  | .other typeTag control extras =>
    ((("type", .string typeTag) :: Trim.cacheField control).filter fun entry =>
      (extras.lookup entry.1).isNone) ++ extras

/-- The marker is reported as dropped, and so does not ride along. -/
def contentPartToJsonFallback (part : ContentPart) : ConverseToolResultContent :=
  .json (History.sortedObject ((partFields part).filter fun entry => entry.1 ≠ "cache_control"))

section ToolResults
variable (provider : String)

/-- A block by its type; what is not read here goes out as JSON. -/
def translateTypedElement (fields : List (String × Json)) (kind : String) :
    Except NormalizeRequest ConverseToolResultContent :=
  match kind with
  | "text" => .ok (.text (((Json.object fields).stringField "text").getD ""))
  | "image" =>
    match fields.lookup "source" with
    | none => .ok (.json (.object fields))
    | some source => do
      let image ← imageSourceToToolResult provider source
      pure (image.getD (.json (.object fields)))
  | "document" =>
    match fields.lookup "source" with
    | none => .ok (.json (.object fields))
    | some source => do
      let document ← documentToToolResult provider source
        ((Json.object fields).stringField "title") (fields.lookup "citations")
      pure (document.getD (.json (.object fields)))
  | _ => .ok (.json (.object fields))

def translateToolResultArrayElement (element : Json) :
    Except NormalizeRequest ConverseToolResultContent :=
  match element with
  | .string text => .ok (.text text)
  | .object fields =>
    translateTypedElement provider fields (((Json.object fields).stringField "type").getD "")
  | other => .ok (.json other)

def translateToolResultContent : Json → Except NormalizeRequest (List ConverseToolResultContent)
  | .string text => .ok [.text text]
  | .array elements => elements.mapM (translateToolResultArrayElement provider)
  | .null => .ok []
  | other => .ok [.json other]

def translatePartForToolResult (part : ContentPart) :
    Except NormalizeRequest ConverseToolResultContent :=
  match part with
  | .known (.text text _ _) => .ok (.text text)
  | .known (.image source _) => do
    let image ← imageSourceToToolResult provider source
    pure (image.getD (contentPartToJsonFallback part))
  | .known (.document source title citations _) => do
    let document ← documentToToolResult provider source title citations
    pure (document.getD (contentPartToJsonFallback part))
  | other => .ok (contentPartToJsonFallback other)

def toolMessageContent : MessageContent → Except NormalizeRequest (List ConverseToolResultContent)
  | .text text => .ok [.text text]
  | .parts parts => parts.mapM (translatePartForToolResult provider)
  | .null => .ok []

def missingToolCallId : NormalizeRequest :=
  ⟨"bedrock-converse", "tool message missing tool_call_id (Role::Tool requires " ++
    "non-empty toolUseId for AWS Converse)"⟩

def buildToolMessage (message : Message) : Except NormalizeRequest ConverseMessage :=
  match message.toolCallId.filter fun id => id ≠ "" with
  | none => .error missingToolCallId
  | some toolUseId => do
    let content ← toolMessageContent provider message.content
    pure ⟨.user, [.toolResult
      ⟨sanitizeToolId toolUseId, ensureMinToolResultContent content, none⟩]⟩

end ToolResults

/-! ### Parts -/

section Parts
variable (provider : String)

def unsignedThinking : NormalizeRequest :=
  ⟨provider, "thinking block on Converse egress missing signature; cannot replay " ++
    "(Anthropic/Bedrock requires the upstream-supplied signature on every reasoningContent " ++
    "block in a multi-turn request)"⟩

def translateKnownPart : KnownContentPart → Except NormalizeRequest (Option ConverseContentBlock)
  | .text text _ _ => .ok (some (.text text))
  | .image source _ => translateImageSource provider source
  | .imageUrl imageUrl _ => translateImageUrl provider imageUrl
  | .document source title citations _ => translateDocument provider source title citations
  | .file file _ =>
    match fileDataToDocumentSource file with
    | some (source, title) => translateDocument provider source title none
    | none => .ok none
  | .toolUse id name input _ => .ok (some (.toolUse ⟨sanitizeToolId id, name, input⟩))
  | .toolResult toolUseId content isError _ => do
    let resultContent ← translateToolResultContent provider content
    pure (some (.toolResult
      ⟨sanitizeToolId toolUseId, ensureMinToolResultContent resultContent,
        isError.map fun failed => if failed then "error" else "success"⟩))
  | .thinking thinking signature =>
    match signature.filter fun signature => signature ≠ "" with
    | none => .error (unsignedThinking provider)
    | some signature => .ok (some (.reasoningContent (.reasoningText thinking (some signature))))
  | .redactedThinking data => .ok (some (.reasoningContent (.redactedContent data)))

/-- An unknown part as a union of one key. -/
def translateContentPart : ContentPart → Except NormalizeRequest (Option ConverseContentBlock)
  | .known part => translateKnownPart provider part
  | .other typeTag _ extras => .ok (some (.other (.object [(typeTag, .object extras)])))

/-- A block and the point its part marks; a part that is dropped leaves neither. -/
def partBlocks (part : ContentPart) : Except NormalizeRequest (List ConverseContentBlock) := do
  let translated ← translateContentPart provider part
  pure (match translated with
    | none => []
    | some block =>
      block :: (Cache.partControl part).toList.map fun control =>
        .cachePoint (.defaultWithTtl (some (Cache.effectiveTtl control))))

def contentBlocksFromParts (parts : List ContentPart) :
    Except NormalizeRequest (List ConverseContentBlock) := do
  let blocks ← parts.mapM (partBlocks provider)
  pure blocks.flatten

def contentBlocksWithCacheControl :
    MessageContent → Except NormalizeRequest (List ConverseContentBlock)
  | .text text => .ok [.text text]
  | .null => .ok []
  | .parts parts => contentBlocksFromParts provider parts

end Parts

/-! ### Turns -/

def isDocument : ConverseContentBlock → Bool
  | .document _ => true
  | _ => false

def isText : ConverseContentBlock → Bool
  | .text _ => true
  | _ => false

def ensureDocumentHasTextSibling (blocks : List ConverseContentBlock) :
    List ConverseContentBlock :=
  if blocks.any isDocument && !blocks.any isText then .text "" :: blocks else blocks

/-- The block of a detail; none of another format, kind or without its signature. -/
def emitReasoningBlock (detail : ReasoningDetail) : Option ConverseContentBlock :=
  match detail.kind with
  | .text =>
    if detail.format ≠ some anthropicFormat then none
    else
      let signature := (detail.payload.stringField "signature").getD ""
      if signature = "" then none
      else
        some (.reasoningContent
          (.reasoningText ((detail.payload.stringField "text").getD "") (some signature)))
  | .encrypted =>
    if detail.format ≠ some anthropicFormat then none
    else
      some (.reasoningContent (.redactedContent ((detail.payload.stringField "data").getD "")))
  | .summary => none
  | .other _ => none

def emitReasoningBlocksConverse (details : List ReasoningDetail) : List ConverseContentBlock :=
  (details.insertionSort fun first second => first.index.getD 0 ≤ second.index.getD 0).filterMap
    emitReasoningBlock

def messageContentHasToolUse : MessageContent → Bool
  | .parts parts => parts.any History.isToolUsePart
  | _ => false

section Turns
variable (provider : String) (read : String → Option Json)

def appendConverseContentBlocks :
    MessageContent → Except NormalizeRequest (List ConverseContentBlock)
  | .text text => .ok (if text = "" then [] else [.text text])
  | .null => .ok []
  | .parts parts => contentBlocksFromParts provider (History.stripTextAfterToolUse parts)

/-- The calls of a turn whose content tells none. -/
def toolUseBlocksFromCalls (message : Message) : List ConverseContentBlock :=
  if messageContentHasToolUse message.content then []
  else
    (Replay.normalizeToolCalls read (message.toolCalls.getD [])).map fun call =>
      .toolUse ⟨call.id, call.name, call.arguments⟩

/-- The reasoning and the content of a turn, before its calls. -/
def spokenBlocks (message : Message) : Except NormalizeRequest (List ConverseContentBlock) :=
  if message.reasoningDetails.isEmpty then
    match message.content with
    | .parts parts => contentBlocksFromParts provider (History.stripTextAfterToolUse parts)
    | content => contentBlocksWithCacheControl provider content
  else do
    let content ← appendConverseContentBlocks provider message.content
    pure (emitReasoningBlocksConverse message.reasoningDetails ++ content)

def buildAssistantContentBlocks (message : Message) :
    Except NormalizeRequest (List ConverseContentBlock) := do
  let blocks ← spokenBlocks provider message
  pure (blocks ++ toolUseBlocksFromCalls read message)

def buildUserTurn (message : Message) : Except NormalizeRequest (List ConverseContentBlock) := do
  let blocks ← contentBlocksWithCacheControl provider message.content
  pure (ensureDocumentHasTextSibling blocks)

/-- Joins the message before where it has the same role. -/
def pushOrCoalesce (out : List ConverseMessage) (role : ConverseRole)
    (blocks : List ConverseContentBlock) : List ConverseMessage :=
  match out.getLast? with
  | some last =>
    if last.role = role then out.dropLast ++ [{ last with content := last.content ++ blocks }]
    else out ++ [⟨role, blocks⟩]
  | none => out ++ [⟨role, blocks⟩]

def pushUnlessEmpty (out : List ConverseMessage) (role : ConverseRole)
    (blocks : List ConverseContentBlock) : List ConverseMessage :=
  if blocks.isEmpty then out else pushOrCoalesce out role blocks

def translateMessage (out : List ConverseMessage) (message : Message) :
    Except NormalizeRequest (List ConverseMessage) :=
  match message.role with
  | .system => .ok out
  | .user => do
    let blocks ← buildUserTurn provider message
    pure (pushUnlessEmpty out .user blocks)
  | .assistant => do
    let blocks ← buildAssistantContentBlocks provider read message
    pure (pushUnlessEmpty out .assistant blocks)
  | .tool => do
    let toolMessage ← buildToolMessage provider message
    pure (pushOrCoalesce out .user toolMessage.content)
  | .other _ => do
    let blocks ← buildUserTurn provider message
    pure (pushUnlessEmpty out .user blocks)

def translateMessages (messages : List Message) : Except NormalizeRequest (List ConverseMessage) :=
  messages.foldlM (translateMessage provider read) []

end Turns
end Routectl.ConverseInput
