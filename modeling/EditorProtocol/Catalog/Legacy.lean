import EditorProtocol.Catalog.Standard

/-!
The legacy catalog: what an earlier generation of the protocol says. It shares positions,
documents and diagnostics with the standard catalog and has completions and hovers of its own.
-/

namespace EditorProtocol.Catalog

def legacy : Registry where
  name := "legacy"
  version := "2.1"
  isFrozen := true
  methods := [
    requestOr "initialize" legacyInitializeParams.shape legacyInitializeResult.shape
      initializeResponseError.shape,
    request "shutdown" .null .null,
    notification exitName .null,
    notification cancelName cancelParams.shape,
    notification logName logMessageParams.shape,
    notification "window/showMessage" showMessageParams.shape,
    notification "textDocument/didOpen" didOpenTextDocumentParams.shape,
    notification "textDocument/didChange" didChangeTextDocumentParams.shape,
    notification "textDocument/didSave" didSaveTextDocumentParams.shape,
    notification "textDocument/didClose" didCloseTextDocumentParams.shape,
    notification "textDocument/publishDiagnostics" publishDiagnosticsParams.shape,
    request "textDocument/hover" textDocumentPositionParams.shape (.nullable legacyHover.shape),
    request "textDocument/definition" textDocumentPositionParams.shape
      (.nullable (.union [location.shape, .sequence location.shape])),
    request "textDocument/references" referenceParams.shape
      (.nullable (.sequence location.shape)),
    request "textDocument/completion" textDocumentPositionParams.shape
      (.nullable (.union [.sequence legacyCompletionItem.shape, legacyCompletionList.shape])),
    request "completionItem/resolve" legacyCompletionItem.shape legacyCompletionItem.shape]

/-- The catalogs that can be asked for by name. -/
def registries : List Registry := [standard, legacy]

/-- The catalog of a name, or a text that lists the names there are. -/
def find (name : String) : Except String Registry :=
  match registries.find? (·.name == name) with
  | some R => .ok R
  | none =>
    .error ("Unknown catalog '" ++ name ++ "', expected one of: " ++
      ", ".intercalate (registries.map (·.name)))

end EditorProtocol.Catalog
