import EditorProtocol.Catalog.Feature

/-!
The payloads of the 2.x generation of the protocol that differ from today's.
-/

namespace EditorProtocol.Catalog

def legacyCompletionItem : Model := .named "LegacyCompletionItem" [
  .required "label" .text,
  .optional "kind" legacyCompletionItemKind.type,
  .optional "detail" .text,
  .optional "documentation" .text,
  .optional "sort_text" .text,
  .optional "filter_text" .text,
  .optional "insert_text" .text,
  .optional "text_edit" textEdit.type,
  .optional "additional_text_edits" (.sequence textEdit.type),
  .optional "command" command.type,
  .optional "data" .any]

def legacyCompletionList : Model := .named "LegacyCompletionList" [
  .required "is_incomplete" .boolean,
  .required "items" (.sequence legacyCompletionItem.type)]

def legacyHover : Model := .named "LegacyHover" [
  .required "contents" (.unionOf [markedStringType, .sequence markedStringType]),
  .optional "range" range.type]

def legacyCompletionOptions : Model := .named "LegacyCompletionOptions" [
  .optional "resolve_provider" .boolean,
  .optional "trigger_characters" (.sequence .text)]

def legacyServerCapabilities : Model := .named "LegacyServerCapabilities" [
  .optional "text_document_sync" legacyTextDocumentSyncKind.type,
  .optional "hover_provider" .boolean,
  .optional "completion_provider" legacyCompletionOptions.type,
  .optional "definition_provider" .boolean,
  .optional "references_provider" .boolean]

def legacyInitializeParams : Model := .named "LegacyInitializeParams" [
  .required "process_id" (.optional .integer),
  .required "root_path" (.optional .text),
  .optional "initialization_options" .any,
  .required "capabilities" .any]

def legacyInitializeResult : Model := .named "LegacyInitializeResult" [
  .required "capabilities" legacyServerCapabilities.type]

end EditorProtocol.Catalog
