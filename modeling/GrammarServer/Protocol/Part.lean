import GrammarServer.Protocol.Shape

/-!
# Parts of messages

The shapes of what messages are made of: places, diagnostics, edits, commands, symbols
and completion items.
-/

namespace GrammarServer.Protocol.Shape

open Member

/-! ## Places -/

/-- A position in a document. -/
def position : Shape := ofDecoder position?

/-- A range of a document. -/
def range : Shape := ofDecoder range?

/-- A document that is named by its URI. -/
def document : Shape := ofDecoder documentUri?

/-- A range of a named document. -/
def location : Shape := ofDecoder place?

/-! ## Texts and commands -/

/-- The name of a markup language. -/
def markupKind : Shape := name ["plaintext", "markdown"]

/-- A text, or a text in a markup language. -/
def documentation : Shape :=
  either string (record [required "kind" markupKind, required "value" string])

/-- A command with its arguments. -/
def command : Shape :=
  record [required "title" string, required "command" string, optional "arguments" (list any)]

/-! ## Diagnostics -/

/-- A remark on a diagnostic at another place. -/
def relatedInformation : Shape :=
  record [required "location" location, required "message" string]

/-- A diagnostic as any server may write it. -/
def diagnostic : Shape :=
  record [
    required "range" range,
    optional "severity" int32,
    optional "code" (either int32 string),
    optional "codeDescription" (record [required "href" uri]),
    optional "source" string,
    required "message" string,
    optional "relatedInformation" (list relatedInformation),
    optional "tags" (list int32),
    optional "data" any]

/-! ## Edits -/

/-- A new text for a range. -/
def textEdit : Shape :=
  record [required "range" range, required "newText" string]

/-- The edits of one document, which may have a version. -/
def documentEdit : Shape :=
  record [
    required "textDocument" (record [required "uri" uri, optional "version" int32]),
    required "edits" (list textEdit)]

/-- The creation of a file. -/
def fileCreation : Shape :=
  record [
    required "uri" uri,
    optional "options" (record (flags ["overwrite", "ignoreIfExists"])),
    optional "annotationId" string]

/-- The renaming of a file. -/
def fileRenaming : Shape :=
  record [
    required "oldUri" uri,
    required "newUri" uri,
    optional "options" (record (flags ["overwrite", "ignoreIfExists"])),
    optional "annotationId" string]

/-- The deletion of a file. -/
def fileDeletion : Shape :=
  record [
    required "uri" uri,
    optional "options" (record
      (flags ["recursive", "ignoreIfNotExists"] ++ [optional "annotationId" string]))]

/-- A change of the files of a workspace. -/
def fileOperation : Shape :=
  tagged "kind" [("create", fileCreation), ("rename", fileRenaming), ("delete", fileDeletion)]

/-- An edit of a workspace. -/
def workspaceEdit : Shape :=
  record [
    defaulted "changes" (option (map (fun text => (Uri.parse? text).isSome) (list textEdit))),
    optional "documentChanges"
      (either (list documentEdit) (list (either fileOperation documentEdit))),
    optional "changeAnnotations" (map (fun _ => true)
      (record [
        required "label" string,
        optional "needsConfirmation" bool,
        optional "description" string]))]

/-- How a document is to be formatted.  Further options are truth values, numbers or
texts. -/
def formattingOptions : Shape :=
  objectWith
    ([required "tabSize" uint32, required "insertSpaces" bool]
      ++ flags ["trimTrailingWhitespace", "insertFinalNewline", "trimFinalNewlines"])
    (either bool (either int32 string))

/-! ## Actions -/

/-- An action on a piece of code. -/
def action : Shape :=
  record [
    required "title" string,
    optional "kind" string,
    optional "diagnostics" (list diagnostic),
    optional "edit" workspaceEdit,
    optional "command" command,
    optional "isPreferred" bool,
    optional "disabled" (record [required "reason" string]),
    optional "data" any]

/-- What a request for actions is about. -/
def actionContext : Shape :=
  record [
    required "diagnostics" (list diagnostic),
    optional "only" (list string),
    optional "triggerKind" int32]

/-! ## Completion and signatures -/

/-- How a completion was asked for. -/
def completionContext : Shape :=
  record [required "triggerKind" int32, optional "triggerCharacter" string]

/-- An edit that replaces a range, or one of two ranges. -/
def completionEdit : Shape :=
  either textEdit
    (record [required "newText" string, required "insert" range, required "replace" range])

/-- A proposal for a completion. -/
def completionItem : Shape :=
  record [
    required "label" string,
    optional "labelDetails" (record [optional "detail" string, optional "description" string]),
    optional "kind" int32,
    optional "detail" string,
    optional "documentation" documentation,
    optional "deprecated" bool,
    optional "preselect" bool,
    optional "sortText" string,
    optional "filterText" string,
    optional "insertText" string,
    optional "insertTextFormat" int32,
    optional "insertTextMode" int32,
    optional "textEdit" completionEdit,
    optional "additionalTextEdits" (list textEdit),
    optional "command" command,
    optional "commitCharacters" (list string),
    optional "data" any,
    optional "tags" (list int32)]

/-- A parameter of a signature, named by a text or by its place in the signature. -/
def signatureParameter : Shape :=
  record [
    required "label" (either string (pair uint32 uint32)),
    optional "documentation" documentation]

/-- A signature. -/
def signature : Shape :=
  record [
    required "label" string,
    optional "documentation" documentation,
    optional "parameters" (list signatureParameter),
    optional "activeParameter" uint32]

/-- How help on signatures was asked for. -/
def signatureContext : Shape :=
  record [
    required "triggerKind" int32,
    optional "triggerCharacter" string,
    required "isRetrigger" bool,
    optional "activeSignatureHelp" (record [
      required "signatures" (list signature),
      optional "activeSignature" uint32,
      optional "activeParameter" uint32])]

/-! ## Annotations of a document -/

/-- A link in a document. -/
def link : Shape :=
  record [
    required "range" range,
    optional "target" uri,
    optional "tooltip" string,
    optional "data" any]

/-- A command shown along with the text. -/
def lens : Shape :=
  record [required "range" range, optional "command" command, optional "data" any]

/-- A part of the text of a hint. -/
def hintPart : Shape :=
  record [
    required "value" string,
    optional "tooltip" documentation,
    optional "location" location,
    optional "command" command]

/-- A hint shown along with the text. -/
def hint : Shape :=
  record [
    required "position" position,
    required "label" (either string (list hintPart)),
    optional "kind" int32,
    optional "textEdits" (list textEdit),
    optional "tooltip" documentation,
    optional "paddingLeft" bool,
    optional "paddingRight" bool,
    optional "data" any]

/-- A colour. -/
def color : Shape :=
  record (["red", "green", "blue", "alpha"].map fun part => required part number)

/-! ## Symbols -/

/-- An item of a hierarchy of symbols; `tags` tells how its tags are written. -/
def hierarchyItem (tags : Shape) : Shape :=
  record [
    required "name" string,
    required "kind" int32,
    optional "tags" tags,
    optional "detail" string,
    required "uri" uri,
    required "range" range,
    required "selectionRange" range,
    optional "data" any]

/-- A symbol of a workspace, which may be without a range. -/
def workspaceSymbol : Shape :=
  record [
    required "name" string,
    required "kind" int32,
    optional "tags" (list int32),
    optional "containerName" string,
    required "location" (either location document),
    optional "data" any]

end GrammarServer.Protocol.Shape
