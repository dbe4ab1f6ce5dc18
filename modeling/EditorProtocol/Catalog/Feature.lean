import EditorProtocol.Catalog.Document
import EditorProtocol.Catalog.Envelope

/-!
Parameters and results of the language features and of the messages about the session itself.
-/

namespace EditorProtocol.Catalog

def progressToken : TypeExpr := .unionOf [.integer, .text]

def markupContent : Model := .named "MarkupContent" [
  .required "kind" markupKind.type,
  .required "value" .text]

def workDoneProgressParams : Model := .named "WorkDoneProgressParams" [
  .optional "work_done_token" progressToken]

def workDoneProgressOptions : Model := .named "WorkDoneProgressOptions" [
  .optional "work_done_progress" .boolean]

def partialResultParams : Model := .named "PartialResultParams" [
  .optional "partial_result_token" progressToken]

def initializeError : Model := .named "InitializeError" [
  .required "retry" .boolean]

def initializeResponseError : Model :=
  .extending (.named "InitializeResponseError") [responseError] [
    .optional "data" initializeError.type]

def initializedParams : Model := .named "InitializedParams" []

def workspaceFolder : Model := .named "WorkspaceFolder" [
  .required "uri" documentUri,
  .required "name" .text]

def showMessageParams : Model := .named "ShowMessageParams" [
  .required "type" messageType.type,
  .required "message" .text]

def logMessageParams : Model := .named "LogMessageParams" [
  .required "type" messageType.type,
  .required "message" .text]

def setTraceParams : Model := .named "SetTraceParams" [
  .required "value" traceValue.type]

def completionContext : Model := .named "CompletionContext" [
  .required "trigger_kind" completionTriggerKind.type,
  .optional "trigger_character" .text]

def completionParams : Model :=
  .extending (.named "CompletionParams")
    [textDocumentPositionParams, workDoneProgressParams, partialResultParams] [
    .optional "context" completionContext.type]

def insertReplaceEdit : Model := .named "InsertReplaceEdit" [
  .required "new_text" .text,
  .required "insert" range.type,
  .required "replace" range.type]

def completionItemLabelDetails : Model := .named "CompletionItemLabelDetails" [
  .optional "detail" .text,
  .optional "description" .text]

def completionItem : Model := .named "CompletionItem" [
  .required "label" .text,
  .optional "label_details" completionItemLabelDetails.type,
  .optional "kind" completionItemKind.type,
  .optional "tags" (.sequence completionItemTag.type),
  .optional "detail" .text,
  .optional "documentation" (.unionOf [.text, markupContent.type]),
  .optional "deprecated" .boolean,
  .optional "preselect" .boolean,
  .optional "sort_text" .text,
  .optional "filter_text" .text,
  .optional "insert_text" .text,
  .optional "insert_text_format" insertTextFormat.type,
  .optional "insert_text_mode" insertTextMode.type,
  .optional "text_edit" (.unionOf [textEdit.type, insertReplaceEdit.type]),
  .optional "additional_text_edits" (.sequence textEdit.type),
  .optional "commit_characters" (.sequence .text),
  .optional "command" command.type,
  .optional "data" .any]

def completionList : Model := .named "CompletionList" [
  .required "is_incomplete" .boolean,
  .required "items" (.sequence completionItem.type)]

def completionResult : TypeExpr := .unionOf [.sequence completionItem.type, completionList.type]

def definitionParams : Model :=
  .extending (.named "DefinitionParams")
    [textDocumentPositionParams, workDoneProgressParams, partialResultParams] []

def definition : TypeExpr := .unionOf [location.type, .sequence location.type]

def formattingOptions : Model := .named "FormattingOptions" [
  .required "tab_size" .positive,
  .required "insert_spaces" .boolean,
  .optional "trim_trailing_whitespace" .boolean,
  .optional "insert_final_newline" .boolean,
  .optional "trim_final_newlines" .boolean]

def documentFormattingParams : Model :=
  .extending (.named "DocumentFormattingParams") [workDoneProgressParams] [
    .required "text_document" textDocumentIdentifier.type,
    .required "options" formattingOptions.type]

def documentRangeFormattingParams : Model :=
  .extending (.named "DocumentRangeFormattingParams") [documentFormattingParams] [
    .required "range" range.type]

def hoverParams : Model :=
  .extending (.named "HoverParams") [textDocumentPositionParams, workDoneProgressParams] []

def markedString : Model := .named "MarkedString" [
  .required "language" .text,
  .required "value" .text]

def markedStringType : TypeExpr := .unionOf [.text, markedString.type]

def hover : Model := .named "Hover" [
  .required "contents"
    (.unionOf [markedStringType, .sequence markedStringType, markupContent.type]),
  .optional "range" range.type]

def referenceContext : Model := .named "ReferenceContext" [
  .required "include_declaration" .boolean]

def referenceParams : Model :=
  .extending (.named "ReferenceParams")
    [textDocumentPositionParams, workDoneProgressParams, partialResultParams] [
    .required "context" referenceContext.type]

end EditorProtocol.Catalog
