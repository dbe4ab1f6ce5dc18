import EditorProtocol.Shape.Family

/-!
The envelopes of requests, responses and notifications, and the error a response may carry.
-/

namespace EditorProtocol.Catalog

def message : Model := .named "Message" [
  .required "jsonrpc" (.literalOf [.plain (.text "2.0")])]

def requestMessage : Model := .extending (.named "RequestMessage") [message] [
  .required "id" (.unionOf [.integer, .text]),
  .required "method" .text,
  .optional "params" .any]

def responseError : Model := .named "ResponseError" [
  .required "code" .integer,
  .required "message" .text,
  .optional "data" .any]

def responseMessage : Model := .extending (.named "ResponseMessage") [message] [
  .required "id" (.optional (.unionOf [.integer, .text])),
  .optional "result" .any,
  .optional "error" responseError.type]

def notificationMessage : Model := .extending (.named "NotificationMessage") [message] [
  .required "method" .text,
  .optional "params" .any]

def cancelParams : Model := .named "CancelParams" [
  .required "id" (.unionOf [.integer, .text])]

end EditorProtocol.Catalog
