import EditorProtocol.Catalog.Feature

/-!
What clients and servers can do, told to each other in the parameters and the result of the first
request.
-/

namespace EditorProtocol.Catalog

def saveOptions : Model := .named "SaveOptions" [
  .optional "include_text" .boolean]

def textDocumentSyncOptions : Model := .named "TextDocumentSyncOptions" [
  .optional "open_close" .boolean,
  .optional "change" textDocumentSyncKind.type,
  .optional "will_save" .boolean,
  .optional "will_save_wait_until" .boolean,
  .optional "save" (.unionOf [.boolean, saveOptions.type])]

def textDocumentSyncClientCapabilities : Model := .named "TextDocumentSyncClientCapabilities" [
  .optional "dynamic_registration" .boolean,
  .optional "will_save" .boolean,
  .optional "will_save_wait_until" .boolean,
  .optional "did_save" .boolean]

def clientCapabilitiesCompletionItemTagSupport : Model :=
  .named "ClientCapabilitiesCompletionItemTagSupport" [
    .required "value_set" (.sequence completionItemTag.type)]

def clientCapabilitiesCompletionItemKind : Model := .named "ClientCapabilitiesCompletionItemKind" [
  .optional "value_set" (.sequence completionItemKind.type)]

def clientCapabilitiesCompletionItem : Model := .named "ClientCapabilitiesCompletionItem" [
  .optional "snippet_support" .boolean,
  .optional "commit_characters_support" .boolean,
  .optional "documentation_format" (.sequence markupKind.type),
  .optional "deprecated_support" .boolean,
  .optional "preselect_support" .boolean,
  .optional "tag_support" clientCapabilitiesCompletionItemTagSupport.type,
  .optional "insert_replace_support" .boolean,
  .optional "label_details_support" .boolean]

def completionClientCapabilities : Model := .named "CompletionClientCapabilities" [
  .optional "dynamic_registration" .boolean,
  .optional "completion_item" clientCapabilitiesCompletionItem.type,
  .optional "completion_item_kind" clientCapabilitiesCompletionItemKind.type,
  .optional "context_support" .boolean,
  .optional "insert_text_mode" insertTextMode.type]

def completionOptions : Model := .extending (.named "CompletionOptions") [workDoneProgressOptions] [
  .optional "trigger_characters" (.sequence .text),
  .optional "all_commit_characters" (.sequence .text),
  .optional "resolve_provider" .boolean]

def definitionClientCapabilities : Model := .named "DefinitionClientCapabilities" [
  .optional "dynamic_registration" .boolean,
  .optional "link_support" .boolean]

def definitionOptions : Model :=
  .extending (.named "DefinitionOptions") [workDoneProgressOptions] []

def publishDiagnosticsClientCapabilities : Model := .named "PublishDiagnosticsClientCapabilities" [
  .optional "related_information" .boolean,
  .optional "version_support" .boolean,
  .optional "code_description_support" .boolean,
  .optional "data_support" .boolean]

def documentFormattingClientCapabilities : Model := .named "DocumentFormattingClientCapabilities" [
  .optional "dynamic_registration" .boolean]

def documentFormattingOptions : Model :=
  .extending (.named "DocumentFormattingOptions") [workDoneProgressOptions] []

def documentRangeFormattingOptions : Model :=
  .extending (.named "DocumentRangeFormattingOptions") [workDoneProgressOptions] []

def hoverClientCapabilities : Model := .named "HoverClientCapabilities" [
  .optional "dynamic_registration" .boolean,
  .optional "content_format" (.sequence markupKind.type)]

def hoverOptions : Model := .extending (.named "HoverOptions") [workDoneProgressOptions] []

def referenceClientCapabilities : Model := .named "ReferenceClientCapabilities" [
  .optional "dynamic_registration" .boolean]

def referenceOptions : Model := .extending (.named "ReferenceOptions") [workDoneProgressOptions] []

def serverCapabilities : Model := .named "ServerCapabilities" [
  .optional "position_encoding" positionEncodingKind.type,
  .optional "text_document_sync"
    (.unionOf [textDocumentSyncOptions.type, textDocumentSyncKind.type]),
  .optional "completion_provider" completionOptions.type,
  .optional "hover_provider" (.unionOf [.boolean, hoverOptions.type]),
  .optional "definition_provider" (.unionOf [.boolean, definitionOptions.type]),
  .optional "references_provider" (.unionOf [.boolean, referenceOptions.type]),
  .optional "document_formatting_provider" (.unionOf [.boolean, documentFormattingOptions.type]),
  .optional "document_range_formatting_provider"
    (.unionOf [.boolean, documentRangeFormattingOptions.type]),
  .optional "experimental" .any]

def initializeResultServerInfo : Model := .named "InitializeResultServerInfo" [
  .required "name" .text,
  .optional "version" .text]

def initializeResult : Model := .named "InitializeResult" [
  .required "capabilities" serverCapabilities.type,
  .optional "server_info" initializeResultServerInfo.type]

def textDocumentClientCapabilities : Model := .named "TextDocumentClientCapabilities" [
  .optional "synchronization" textDocumentSyncClientCapabilities.type,
  .optional "completion" completionClientCapabilities.type,
  .optional "hover" hoverClientCapabilities.type,
  .optional "definition" definitionClientCapabilities.type,
  .optional "references" referenceClientCapabilities.type,
  .optional "formatting" documentFormattingClientCapabilities.type,
  .optional "range_formatting" documentFormattingClientCapabilities.type,
  .optional "publish_diagnostics" publishDiagnosticsClientCapabilities.type]

def clientCapabilitiesWindow : Model := .named "ClientCapabilitiesWindow" [
  .optional "work_done_progress" .boolean]

def clientCapabilitiesGeneral : Model := .named "ClientCapabilitiesGeneral" [
  .optional "position_encodings" (.sequence positionEncodingKind.type)]

def clientCapabilities : Model := .named "ClientCapabilities" [
  .optional "text_document" textDocumentClientCapabilities.type,
  .optional "window" clientCapabilitiesWindow.type,
  .optional "general" clientCapabilitiesGeneral.type,
  .optional "experimental" .any]

def initializeParamsClientInfo : Model := .named "InitializeParamsClientInfo" [
  .required "name" .text,
  .optional "version" .text]

def initializeParams : Model := .extending (.named "InitializeParams") [workDoneProgressParams] [
  .required "process_id" (.optional .integer),
  .optional "client_info" initializeParamsClientInfo.type,
  .optional "locale" .text,
  .required "root_uri" (.optional documentUri),
  .optional "initialization_options" .any,
  .required "capabilities" clientCapabilities.type,
  .optional "trace" traceValue.type,
  .nullable "workspace_folders" (.sequence workspaceFolder.type)]

end EditorProtocol.Catalog
