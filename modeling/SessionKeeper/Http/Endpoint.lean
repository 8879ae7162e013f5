import SessionKeeper.Fault.Basic
import SessionKeeper.Http.Message

/-! # Endpoints

What is at the other end of an HTTP session: for every request an answer, which may depend on the
requests before it. An endpoint can be scripted by routes, tried in order; a route answers from a
queue whose last reply is repeated for ever, or by the token that a request carries. A request that
no route foresees is turned down at once.
-/

namespace SessionKeeper

/-- The answer to an exchange: a response, or the failure that the HTTP layer raises. -/
abbrev Answer := Except Fault Response

/-- An answer and its way back. -/
inductive Delivery where
  /-- The answer is there before the request has left; nobody waits for it. -/
  | atOnce (answer : Answer)
  | later (answer : Answer)

def Delivery.answer : Delivery → Answer
  | atOnce answer | later answer => answer

/-- What a request brings back, given the earlier requests in their order. -/
abbrev Endpoint := List Request → Request → Delivery

inductive Supply where
  /-- One answer after the other, the last one again and again. -/
  | queue (answers : List Delivery)
  /-- By whether the request carries one of the tokens. -/
  | guarded (tokens : List Text) (accepted rejected : Delivery)

/-- Answers to the requests of one method whose address holds `fragment`. -/
structure Route where
  method : Text
  fragment : Text
  supply : Supply

namespace Route

/-- Whether `part` occurs somewhere in a text. -/
def occursIn {α : Type} [BEq α] (part : List α) : List α → Bool
  | [] => part.isEmpty
  | c :: rest => part.isPrefixOf (c :: rest) || occursIn part rest

def matches? (route : Route) (request : Request) : Bool :=
  route.method == request.method && occursIn route.fragment.points request.url.points

/-- The place of the first route that matches a request. -/
def index? (routes : List Route) (request : Request) : Option Nat :=
  routes.findIdx? (·.matches? request)

/-- The answer of a route that has answered `answered` requests. -/
def answer (route : Route) (answered : Nat) (request : Request) : Delivery :=
  match route.supply with
  | .queue answers =>
    (answers[min answered (answers.length - 1)]?).getD
      (.atOnce (.error (.foreign .noAnswerLeft)))
  | .guarded tokens accepted rejected =>
    if tokens.any fun token => request.header? "Authorization" == some ("Bearer " ++ token)
    then accepted else rejected

end Route

/-- What a request that no route foresees brings back. -/
def Endpoint.unforeseen (request : Request) : Delivery :=
  .atOnce (.error (.foreign (.unexpectedRequest request.method request.url)))

def Endpoint.ofRoutes (routes : List Route) : Endpoint := fun earlier request =>
  match Route.index? routes request with
  | some index =>
    match routes[index]? with
    | some route =>
      route.answer (earlier.countP fun past => Route.index? routes past == some index) request
    | none => unforeseen request
  | none => unforeseen request

def Endpoint.after (count : Nat) (endpoint : Endpoint) : Endpoint := fun earlier request =>
  endpoint (earlier.drop count) request

end SessionKeeper
