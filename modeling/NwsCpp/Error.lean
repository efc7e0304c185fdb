import NwsCpp.Decimal

/-! Error values and results of the SDK operations. -/

namespace NwsCpp

open Bytes Decimal

inductive ErrorCode where
  | ok
  | networkError
  | rateLimited
  | serverError
  | notFound
  | invalidRequest
  | parseError
  | cacheError
  | unknown
  deriving DecidableEq

structure Error where
  code : ErrorCode := .unknown
  message : Text := []
  httpStatus : Int := 0
  correlationId : Text := []
  detail : Text := []
  deriving DecidableEq

namespace Error

def network (msg : Text) : Error := { code := .networkError, message := msg }

def parse (msg : Text) : Error := { code := .parseError, message := msg }

def rateLimited (msg : Text) : Error := { code := .rateLimited, message := msg }

def invalidRequest (msg : Text) : Error := { code := .invalidRequest, message := msg }

end Error

abbrev Result (α : Type*) := Except Error α

/-- The string members of a problem-details object that the JSON reader found. -/
structure ProblemDetails where
  title : Option Text := none
  detail : Option Text := none
  correlationId : Option Text := none

def statusCode (status : Int) : ErrorCode :=
  if status = 404 then .notFound
  else if status = 400 then .invalidRequest
  else if status = 503 ∨ status = 429 then .rateLimited
  else if 500 ≤ status ∧ status < 600 then .serverError
  else .unknown

/-- `problem` is the JSON reader: `none` when the body is no JSON object. -/
def Error.fromResponse (problem : Text → Option ProblemDetails) (status : Int) (body : Text)
    (correlationId : Text) : Error :=
  let err : Error := { code := statusCode status, httpStatus := status, correlationId }
  let err := match problem body with
    | some p =>
      { err with
        message := p.title.getD err.message
        detail := p.detail.getD err.detail
        correlationId :=
          if err.correlationId.isEmpty then p.correlationId.getD err.correlationId
          else err.correlationId }
    | none => { err with message := body.take 256 }
  if err.message.isEmpty then { err with message := ascii "HTTP " ++ intText status } else err

end NwsCpp
