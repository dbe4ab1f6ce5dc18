import EditorProtocol.Shape.TypeExpr

/-!
How a type is printed where no shape can be made of it. Types of the catalogs are printed with the
places where they are declared.
-/

namespace EditorProtocol

/-- The printed form of a mark: one bound by itself, several as an interval. -/
def Mark.printed : Mark → String
  | .bounds (some n) none none none => "Ge(ge=" ++ toString n ++ ")"
  | .bounds none (some n) none none => "Gt(gt=" ++ toString n ++ ")"
  | .bounds none none (some n) none => "Le(le=" ++ toString n ++ ")"
  | .bounds none none none (some n) => "Lt(lt=" ++ toString n ++ ")"
  | .bounds atLeast above atMost below =>
    let bound (n : Option Int) : String := (n.map toString).getD "None"
    "Interval(gt=" ++ bound above ++ ", ge=" ++ bound atLeast ++ ", lt=" ++ bound below ++
      ", le=" ++ bound atMost ++ ")"
  | .keepNull => "NULLABLE"
  | .note => "note"

namespace TypeExpr

/-- The places where types of the catalogs are declared, with their names. -/
def homes : List (String × List String) := [
  ("lsp_data_model", ["LspModel"]),
  ("common_structures", [
    "TraceValue", "Position", "Range", "Location", "DiagnosticSeverity", "DiagnosticTag",
    "DiagnosticRelatedInformation", "CodeDescription", "Diagnostic", "Command", "TextEdit",
    "TextDocumentIdentifier", "VersionedTextDocumentIdentifier",
    "OptionalVersionedTextDocumentIdentifier", "TextDocumentItem", "TextDocumentPositionParams",
    "MarkupKind", "MarkupContent", "WorkDoneProgressParams", "WorkDoneProgressOptions",
    "PartialResultParams", "InitializeError", "InitializeResponseError", "InitializedParams",
    "WorkspaceFolder", "MessageType", "ShowMessageParams", "LogMessageParams", "SetTraceParams",
    "DocumentUri", "URI"]),
  ("protocol_structures", [
    "Message", "RequestMessage", "ResponseError", "ResponseMessage", "NotificationMessage",
    "CancelParams", "ErrorCodes"]),
  ("server_capabilities", [
    "PositionEncodingKind", "ServerCapabilities", "InitializeResultServerInfo",
    "InitializeResult"]),
  ("client_capabilities", [
    "TextDocumentClientCapabilities", "ClientCapabilitiesWindow", "ClientCapabilitiesGeneral",
    "ClientCapabilities", "InitializeParamsClientInfo", "InitializeParams"]),
  ("document_sync", [
    "TextDocumentSyncKind", "SaveOptions", "TextDocumentSyncOptions",
    "TextDocumentSyncClientCapabilities", "DidOpenTextDocumentParams",
    "TextDocumentContentChangeEvent", "DidChangeTextDocumentParams", "DidSaveTextDocumentParams",
    "DidCloseTextDocumentParams"]),
  ("features.completion", [
    "CompletionItemKind", "CompletionItemTag", "InsertTextMode", "InsertTextFormat",
    "CompletionTriggerKind", "ClientCapabilitiesCompletionItemTagSupport",
    "ClientCapabilitiesCompletionItemKind", "ClientCapabilitiesCompletionItem",
    "CompletionClientCapabilities", "CompletionOptions", "CompletionContext", "CompletionParams",
    "InsertReplaceEdit", "CompletionItemLabelDetails", "CompletionItem", "CompletionList"]),
  ("features.definition", [
    "DefinitionClientCapabilities", "DefinitionOptions", "DefinitionParams"]),
  ("features.diagnostic", ["PublishDiagnosticsClientCapabilities", "PublishDiagnosticsParams"]),
  ("features.formatting", [
    "DocumentFormattingClientCapabilities", "DocumentFormattingOptions",
    "DocumentRangeFormattingOptions", "FormattingOptions", "DocumentFormattingParams",
    "DocumentRangeFormattingParams"]),
  ("features.hover", ["HoverClientCapabilities", "HoverOptions", "HoverParams", "MarkedString",
    "Hover"]),
  ("features.references", [
    "ReferenceClientCapabilities", "ReferenceOptions", "ReferenceContext", "ReferenceParams"]),
  ("catalogs.legacy", [
    "LegacyCompletionItemKind", "LegacyTextDocumentSyncKind", "LegacyCompletionItem",
    "LegacyCompletionList", "LegacyHover", "LegacyCompletionOptions", "LegacyServerCapabilities",
    "LegacyInitializeParams", "LegacyInitializeResult"])]

/-- The name of a type with the place where it is declared in front of it. -/
def qualified (name : String) : String :=
  match homes.find? fun h => h.2.contains name with
  | some (home, _) => "lsp_contract." ++ home ++ "." ++ name
  | none => name

mutual

/-- The printed form of a type as a part of another one. -/
def printed : TypeExpr → String
  | .any => "typing.Any"
  | .null => "NoneType"
  | .boolean => "bool"
  | .integer => "int"
  | .float => "float"
  | .text => "str"
  | .list => "list"
  | .foreign name => name
  | .mapping key value => "typing.Dict[" ++ key.printed ++ ", " ++ value.printed ++ "]"
  | .enumeration type => qualified type.name
  | .model ref => if ref.serial = 0 then qualified ref.name else ref.name
  | .union [t, .null] false => "typing.Optional[" ++ t.printed ++ "]"
  | .union [.null, t] false => "typing.Optional[" ++ t.printed ++ "]"
  | .union members false => "typing.Union[" ++ ", ".intercalate (printedAll members) ++ "]"
  | .union members true => " | ".intercalate (barredAll members)
  | .sequence element => "typing.List[" ++ element.printed ++ "]"
  | .literal codes => "typing.Literal[" ++ ", ".intercalate (codes.map Code.render) ++ "]"
  | .marked type marks =>
    "typing.Annotated[" ++ ", ".intercalate (type.printed :: marks.map Mark.printed) ++ "]"
  | .named name _ => qualified name
  | .shaped shape => shape.describe

def printedAll : List TypeExpr → List String
  | [] => []
  | t :: rest => t.printed :: printedAll rest

/-- The printed forms of types between bars, where null is told by its value. -/
def barredAll : List TypeExpr → List String
  | [] => []
  | t :: rest => (if t.isNull then "None" else t.printed) :: barredAll rest

end

end TypeExpr

end EditorProtocol
