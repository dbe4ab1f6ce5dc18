import EditorProtocol.Shape.TypeExpr

/-!
The enumerations of the catalogs. Integer enumerations number their members as the protocol does,
text enumerations spell them as on the wire.
-/

namespace EditorProtocol.Catalog

def errorCodes : EnumType := ⟨"ErrorCodes", .integer, [
  ("ParseError", .int (-32700)), ("InvalidRequest", .int (-32600)),
  ("MethodNotFound", .int (-32601)), ("InvalidParams", .int (-32602)),
  ("InternalError", .int (-32603)), ("ServerNotInitialized", .int (-32002)),
  ("UnknownErrorCode", .int (-32001)), ("RequestFailed", .int (-32803)),
  ("ServerCancelled", .int (-32802)), ("ContentModified", .int (-32801)),
  ("RequestCancelled", .int (-32800))]⟩

def traceValue : EnumType := ⟨"TraceValue", .text, [
  ("OFF", .text "off"), ("MESSAGES", .text "messages"), ("VERBOSE", .text "verbose")]⟩

def diagnosticSeverity : EnumType := ⟨"DiagnosticSeverity", .integer, [
  ("ERROR", .int 1), ("WARNING", .int 2), ("INFORMATION", .int 3), ("HINT", .int 4)]⟩

def diagnosticTag : EnumType := ⟨"DiagnosticTag", .integer, [
  ("UNNECESSARY", .int 1), ("DEPRECATED", .int 2)]⟩

def markupKind : EnumType := ⟨"MarkupKind", .text, [
  ("PLAIN_TEXT", .text "plaintext"), ("MARKDOWN", .text "markdown")]⟩

def messageType : EnumType := ⟨"MessageType", .integer, [
  ("ERROR", .int 1), ("WARNING", .int 2), ("INFO", .int 3), ("LOG", .int 4)]⟩

def textDocumentSyncKind : EnumType := ⟨"TextDocumentSyncKind", .integer, [
  ("NONE", .int 0), ("FULL", .int 1), ("INCREMENTAL", .int 2)]⟩

def completionItemKind : EnumType := ⟨"CompletionItemKind", .integer, [
  ("TEXT", .int 1), ("METHOD", .int 2), ("FUNCTION", .int 3), ("CONSTRUCTOR", .int 4),
  ("FIELD", .int 5), ("VARIABLE", .int 6), ("CLASS", .int 7), ("INTERFACE", .int 8),
  ("MODULE", .int 9), ("PROPERTY", .int 10), ("UNIT", .int 11), ("VALUE", .int 12),
  ("ENUM", .int 13), ("KEYWORD", .int 14), ("SNIPPET", .int 15), ("COLOR", .int 16),
  ("FILE", .int 17), ("REFERENCE", .int 18), ("FOLDER", .int 19), ("ENUM_MEMBER", .int 20),
  ("CONSTANT", .int 21), ("STRUCT", .int 22), ("EVENT", .int 23), ("OPERATOR", .int 24),
  ("TYPE_PARAMETER", .int 25)]⟩

def completionItemTag : EnumType := ⟨"CompletionItemTag", .integer, [
  ("DEPRECATED", .int 1)]⟩

def insertTextMode : EnumType := ⟨"InsertTextMode", .integer, [
  ("AS_IS", .int 1), ("ADJUST_INDENTATION", .int 2)]⟩

def insertTextFormat : EnumType := ⟨"InsertTextFormat", .integer, [
  ("PLAIN_TEXT", .int 1), ("SNIPPET", .int 2)]⟩

def completionTriggerKind : EnumType := ⟨"CompletionTriggerKind", .integer, [
  ("INVOKED", .int 1), ("TRIGGER_CHARACTER", .int 2),
  ("TRIGGER_FOR_INCOMPLETE_COMPLETIONS", .int 3)]⟩

def positionEncodingKind : EnumType := ⟨"PositionEncodingKind", .text, [
  ("UTF8", .text "utf-8"), ("UTF16", .text "utf-16"), ("UTF32", .text "utf-32")]⟩

def legacyCompletionItemKind : EnumType := ⟨"LegacyCompletionItemKind", .integer, [
  ("TEXT", .int 1), ("METHOD", .int 2), ("FUNCTION", .int 3), ("CONSTRUCTOR", .int 4),
  ("FIELD", .int 5), ("VARIABLE", .int 6), ("CLASS", .int 7), ("INTERFACE", .int 8),
  ("MODULE", .int 9), ("PROPERTY", .int 10), ("UNIT", .int 11), ("VALUE", .int 12),
  ("ENUM", .int 13), ("KEYWORD", .int 14), ("SNIPPET", .int 15), ("COLOR", .int 16),
  ("FILE", .int 17), ("REFERENCE", .int 18)]⟩

def legacyTextDocumentSyncKind : EnumType := ⟨"LegacyTextDocumentSyncKind", .integer, [
  ("NONE", .int 0), ("FULL", .int 1), ("INCREMENTAL", .int 2)]⟩

/-- The methods by name. -/
def methodNames : EnumType := ⟨"RequestMethodEnum", .text, [
  ("INITIALIZE", .text "initialize"), ("INITIALIZED", .text "initialized"),
  ("SHUTDOWN", .text "shutdown"), ("EXIT", .text "exit"),
  ("WINDOW_SHOW_MESSAGE", .text "window/showMessage"),
  ("WINDOW_LOG_MESSAGE", .text "window/logMessage"),
  ("TEXT_DOCUMENT_DID_OPEN", .text "textDocument/didOpen"),
  ("TEXT_DOCUMENT_DID_CHANGE", .text "textDocument/didChange"),
  ("TEXT_DOCUMENT_DID_SAVE", .text "textDocument/didSave"),
  ("TEXT_DOCUMENT_DID_CLOSE", .text "textDocument/didClose"),
  ("DEFINITION", .text "textDocument/definition"),
  ("REFERENCES", .text "textDocument/references"), ("HOVER", .text "textDocument/hover"),
  ("COMPLETION", .text "textDocument/completion"),
  ("COMPLETION_ITEM_RESOLVE", .text "completionItem/resolve"),
  ("PUBLISH_DIAGNOSTICS", .text "textDocument/publishDiagnostics"),
  ("FORMATTING", .text "textDocument/formatting"),
  ("RANGE_FORMATTING", .text "textDocument/rangeFormatting"),
  ("CANCEL_REQUEST", .text "$/cancelRequest"), ("SET_TRACE", .text "$/setTrace")]⟩

/-- Every enumeration of the catalogs. -/
def enumerations : List EnumType := [
  methodNames, errorCodes, traceValue, diagnosticSeverity, diagnosticTag, markupKind, messageType,
  textDocumentSyncKind, completionItemKind, completionItemTag, insertTextMode, insertTextFormat,
  completionTriggerKind, positionEncodingKind, legacyCompletionItemKind, legacyTextDocumentSyncKind]

end EditorProtocol.Catalog
