import EditorProtocol.Catalog.Models
import EditorProtocol.Method.Registry

/-!
The standard catalog: what the current generation of the protocol says.
-/

namespace EditorProtocol

/-- The shape of the records of a model. -/
def Model.shape (m : Model) : Shape := .record m.ref

namespace Catalog

/-- A request whose error is the general one. -/
def request (name : String) (params result : Shape) : Method :=
  ⟨name, some params, some ⟨result, responseError.shape⟩⟩

/-- A request with an error of its own. -/
def requestOr (name : String) (params result error : Shape) : Method :=
  ⟨name, some params, some ⟨result, error⟩⟩

def notification (name : String) (params : Shape) : Method := ⟨name, some params, none⟩

/-- The notification that takes a request back. -/
def cancelName : String := "$/cancelRequest"

/-- The notification that ends a connection. -/
def exitName : String := "exit"

/-- The notification that carries an entry of the log. -/
def logName : String := "window/logMessage"

def standard : Registry where
  name := "standard"
  version := "3.17"
  isFrozen := true
  methods := [
    requestOr "initialize" initializeParams.shape initializeResult.shape
      initializeResponseError.shape,
    notification "initialized" initializedParams.shape,
    request "shutdown" .null .null,
    notification exitName .null,
    notification cancelName cancelParams.shape,
    notification "$/setTrace" setTraceParams.shape,
    notification logName logMessageParams.shape,
    notification "window/showMessage" showMessageParams.shape,
    notification "textDocument/didOpen" didOpenTextDocumentParams.shape,
    notification "textDocument/didChange" didChangeTextDocumentParams.shape,
    notification "textDocument/didSave" didSaveTextDocumentParams.shape,
    notification "textDocument/didClose" didCloseTextDocumentParams.shape,
    notification "textDocument/publishDiagnostics" publishDiagnosticsParams.shape,
    request "textDocument/hover" hoverParams.shape (.nullable hover.shape),
    request "textDocument/definition" definitionParams.shape
      (.nullable (.union [location.shape, .sequence location.shape])),
    request "textDocument/references" referenceParams.shape
      (.nullable (.sequence location.shape)),
    request "textDocument/completion" completionParams.shape
      (.nullable (.union [.sequence completionItem.shape, completionList.shape])),
    request "completionItem/resolve" completionItem.shape completionItem.shape,
    request "textDocument/formatting" documentFormattingParams.shape
      (.nullable (.sequence textEdit.shape)),
    request "textDocument/rangeFormatting" documentRangeFormattingParams.shape
      (.nullable (.sequence textEdit.shape))]

end Catalog

end EditorProtocol
