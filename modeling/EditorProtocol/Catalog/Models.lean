import EditorProtocol.Catalog.Capability
import EditorProtocol.Catalog.Earlier

/-!
All models of the catalogs as one family, and the types that the catalogs name.
-/

namespace EditorProtocol.Catalog

/-- Every model of the catalogs. -/
def models : List Model := [
  message, requestMessage, responseError, responseMessage, notificationMessage, cancelParams,
  position, range, location, diagnosticRelatedInformation, codeDescription, diagnostic, command,
  textEdit, textDocumentIdentifier, versionedTextDocumentIdentifier,
  optionalVersionedTextDocumentIdentifier, textDocumentItem, textDocumentPositionParams,
  markupContent, workDoneProgressParams, workDoneProgressOptions, partialResultParams,
  initializeError, initializeResponseError, initializedParams, workspaceFolder, showMessageParams,
  logMessageParams, setTraceParams, saveOptions, textDocumentSyncOptions,
  textDocumentSyncClientCapabilities, didOpenTextDocumentParams, textDocumentContentChangeEvent,
  didChangeTextDocumentParams, didSaveTextDocumentParams, didCloseTextDocumentParams,
  clientCapabilitiesCompletionItemTagSupport, clientCapabilitiesCompletionItemKind,
  clientCapabilitiesCompletionItem, completionClientCapabilities, completionOptions,
  completionContext, completionParams, insertReplaceEdit, completionItemLabelDetails,
  completionItem, completionList, definitionClientCapabilities, definitionOptions, definitionParams,
  publishDiagnosticsClientCapabilities, publishDiagnosticsParams,
  documentFormattingClientCapabilities, documentFormattingOptions, documentRangeFormattingOptions,
  formattingOptions, documentFormattingParams, documentRangeFormattingParams,
  hoverClientCapabilities, hoverOptions, hoverParams, markedString, hover,
  referenceClientCapabilities, referenceOptions, referenceContext, referenceParams,
  serverCapabilities, initializeResultServerInfo, initializeResult, textDocumentClientCapabilities,
  clientCapabilitiesWindow, clientCapabilitiesGeneral, clientCapabilities,
  initializeParamsClientInfo, initializeParams, legacyCompletionItem, legacyCompletionList,
  legacyHover, legacyCompletionOptions, legacyServerCapabilities, legacyInitializeParams,
  legacyInitializeResult]

/-- The family in which the models of the catalogs refer to one another. -/
def family : Family := ⟨models⟩

/-- Every type of the catalogs under its name. -/
def types : List (String × TypeExpr) :=
  [("Definition", definition), ("CompletionResult", completionResult),
    ("MarkedStringType", markedStringType), ("ProgressToken", progressToken),
    ("DocumentUri", documentUri), ("URI", uri)] ++
    models.map (fun m => (m.ref.name, m.type)) ++ enumerations.map fun e => (e.name, e.type)

end EditorProtocol.Catalog
