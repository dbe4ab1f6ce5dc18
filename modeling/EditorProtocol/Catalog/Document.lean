import EditorProtocol.Catalog.Enumerations
import EditorProtocol.Shape.Family

/-!
Places in documents and what is said about them: positions and ranges, diagnostics, commands,
edits, document identifiers, and the notifications that keep documents in step.
-/

namespace EditorProtocol.Catalog

def documentUri : TypeExpr := .named "DocumentUri" .text

def uri : TypeExpr := .named "URI" .text

def position : Model := Model.ofKind .position <| .named "Position" [
  .required "line" .nonNegative,
  .required "character" .nonNegative]

/-- An exclusive range; start and end coincide at an insertion point. -/
def range : Model := Model.ofKind .constant <| Model.withOrder <| .named "Range" [
  .required "start" position.type,
  .required "end" position.type]

def location : Model := Model.ofKind .constant <| .named "Location" [
  .required "uri" documentUri,
  .required "range" range.type]

def diagnosticRelatedInformation : Model := .named "DiagnosticRelatedInformation" [
  .required "location" location.type,
  .required "message" .text]

def codeDescription : Model := .named "CodeDescription" [
  .required "href" uri]

def diagnostic : Model := .named "Diagnostic" [
  .required "range" range.type,
  .optional "severity" diagnosticSeverity.type,
  .optional "code" (.unionOf [.integer, .text]),
  .optional "code_description" codeDescription.type,
  .optional "source" .text,
  .required "message" .text,
  .optional "tags" (.sequence diagnosticTag.type),
  .optional "related_information" (.sequence diagnosticRelatedInformation.type),
  .optional "data" .any]

def command : Model := .named "Command" [
  .required "title" .text,
  .required "command" .text,
  .optional "arguments" (.sequence .any)]

def textEdit : Model := .named "TextEdit" [
  .required "range" range.type,
  .required "new_text" .text]

def textDocumentIdentifier : Model := .named "TextDocumentIdentifier" [
  .required "uri" documentUri]

def versionedTextDocumentIdentifier : Model :=
  .extending (.named "VersionedTextDocumentIdentifier") [textDocumentIdentifier] [
    .required "version" .integer]

def optionalVersionedTextDocumentIdentifier : Model :=
  .extending (.named "OptionalVersionedTextDocumentIdentifier") [textDocumentIdentifier] [
    .required "version" (.optional .integer)]

def textDocumentItem : Model :=
  .extending (.named "TextDocumentItem") [versionedTextDocumentIdentifier] [
    .required "language_id" .text,
    .required "text" .text]

def textDocumentPositionParams : Model := .named "TextDocumentPositionParams" [
  .required "text_document" textDocumentIdentifier.type,
  .required "position" position.type]

def didOpenTextDocumentParams : Model := .named "DidOpenTextDocumentParams" [
  .required "text_document" textDocumentItem.type]

def textDocumentContentChangeEvent : Model := .named "TextDocumentContentChangeEvent" [
  .optional "range" range.type,
  .optional "range_length" .nonNegative,
  .required "text" .text]

def didChangeTextDocumentParams : Model := .named "DidChangeTextDocumentParams" [
  .required "text_document" versionedTextDocumentIdentifier.type,
  .required "content_changes" (.sequence textDocumentContentChangeEvent.type)]

def didSaveTextDocumentParams : Model := .named "DidSaveTextDocumentParams" [
  .required "text_document" textDocumentIdentifier.type,
  .optional "text" .text]

def didCloseTextDocumentParams : Model := .named "DidCloseTextDocumentParams" [
  .required "text_document" textDocumentIdentifier.type]

def publishDiagnosticsParams : Model := .named "PublishDiagnosticsParams" [
  .required "uri" documentUri,
  .optional "version" .integer,
  .required "diagnostics" (.sequence diagnostic.type)]

end EditorProtocol.Catalog
