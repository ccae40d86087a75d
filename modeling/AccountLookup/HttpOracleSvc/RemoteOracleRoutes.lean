/-
# The HTTP interface of the remote oracle

How the server reads a request about a party. The route has two parameters, which
the web framework takes from the path and percent-decodes; the optional properties
come from the query string and the participant from the body. A path that the route
does not match, or whose escapes are malformed, never reaches a handler.
-/

import AccountLookup.Domain.Interfaces
import AccountLookup.Library.PercentDecoding
import AccountLookup.Library.UrlText

namespace AccountLookup

open Library

/-- The methods with which the remote oracle is called. -/
inductive HttpMethod
  | get
  | post
  | delete
  deriving DecidableEq

/-- A request: its method, its relative URL and the `fspId` of its body. -/
structure HttpRequest where
  method : HttpMethod
  url : String
  fspId : JsString
  deriving DecidableEq

namespace RemoteOracleExpressRoutes

open PercentDecoding

/-- The handlers of the routes about a party. -/
inductive Handler
  | getParticipantFspId
  | associateParticipant
  | disassociateParticipant
  deriving DecidableEq

/-- The handler of a method. -/
def handlerOf : HttpMethod → Handler
  | .get => .getParticipantFspId
  | .post => .associateParticipant
  | .delete => .disassociateParticipant

/-- What a handler reads of a request: `req.params`, the text of the values in
`req.query`, and `req.body`. -/
structure ExpressRequest where
  partyType : String
  partyId : String
  query : String → JsString
  fspId : JsString

/-- The parameters of `/participants/:partyType/:partyId` in a path. The framework
ignores the case of the fixed part and a slash at the end. -/
def matchParticipants (path : List Char) : Option (List Char × List Char) :=
  match path.splitOn '/' with
  | [] :: fixed :: partyType :: partyId :: rest =>
    if fixed.map Char.toLower = "participants".toList ∧ partyType ≠ [] ∧ partyId ≠ [] ∧
        (rest = [] ∨ rest = [[]]) then
      some (partyType, partyId)
    else none
  | _ => none

/-- The text of a value in `req.query`: a key that is given several times has an
array, which is written with commas. -/
def queryString : List (List Char) → JsString
  | [] => .undefined
  | values => .str (String.ofList ([','].intercalate values))

/-- What reaches the handler of a request, when the framework only splits the query string. A
server whose query library also decodes its values reads a request by
`RemoteOracleServer.respond`. -/
def receive (request : HttpRequest) : Option (Handler × ExpressRequest) :=
  let url := request.url.toList
  match matchParticipants (UrlText.before '?' url) with
  | none => none
  | some (partyType, partyId) =>
    match decode partyType, decode partyId with
    | some partyType, some partyId =>
      some (handlerOf request.method,
        { partyType := String.ofList partyType
          partyId := String.ofList partyId
          query := fun key =>
            queryString (UrlText.queryValues key.toList (UrlText.after '?' url))
          fspId := request.fspId })
    | _, _ => none

def extractRequestParams (req : ExpressRequest) : Association where
  partyType := .str req.partyType
  partyId := .str req.partyId
  partySubType := (req.query "partySubType").orNull
  currency := (req.query "currency").orNull
  fspId := req.fspId.orNull

/-- The fixed part of the route. -/
def fixedPath : List Char := "/participants/".toList

/-- What the route matches after its fixed part. -/
theorem matchParticipants_fixedPath {text partyType partyId : List Char} :
    matchParticipants (fixedPath ++ text) = some (partyType, partyId) ↔
      partyType ≠ [] ∧ partyId ≠ [] ∧
        (text.splitOn '/' = [partyType, partyId] ∨
          text.splitOn '/' = [partyType, partyId, []]) := by
  have hsplit : (fixedPath ++ text).splitOn '/' =
      [] :: "participants".toList :: text.splitOn '/' := by
    have hfixed : fixedPath ++ text =
        [] ++ '/' :: ("participants".toList ++ '/' :: text) := rfl
    rw [hfixed, List.splitOn_append_cons_self_of_not_mem (by decide),
      List.splitOn_append_cons_self_of_not_mem (by decide)]
  have hlower : "participants".toList.map Char.toLower = "participants".toList := by decide
  unfold matchParticipants
  rw [hsplit]
  split
  · next fixed first second rest heq =>
    obtain ⟨-, heq⟩ := List.cons.inj heq
    obtain ⟨rfl, htext⟩ := List.cons.inj heq
    rw [htext, hlower]
    simp only [true_and, Option.ite_none_right_eq_some, Option.some.injEq, Prod.mk.injEq,
      List.cons.injEq]
    constructor
    · rintro ⟨⟨hfirst, hsecond, hrest⟩, rfl, rfl⟩
      exact ⟨hfirst, hsecond, hrest.imp (⟨rfl, rfl, ·⟩) (⟨rfl, rfl, ·⟩)⟩
    · rintro ⟨hfirst, hsecond, ⟨rfl, rfl, hrest⟩ | ⟨rfl, rfl, hrest⟩⟩
      · exact ⟨⟨hfirst, hsecond, Or.inl hrest⟩, rfl, rfl⟩
      · exact ⟨⟨hfirst, hsecond, Or.inr hrest⟩, rfl, rfl⟩
  · next hne =>
    refine iff_of_false (fun h => (by cases h)) ?_
    rintro ⟨-, -, htext | htext⟩
    · exact hne _ _ _ [] (by rw [htext])
    · exact hne _ _ _ [[]] (by rw [htext])

/-- A text that the route takes as it is. -/
def Plain (text : List Char) : Prop := '/' ∉ text ∧ '?' ∉ text ∧ '%' ∉ text

/-- The two parameters of the route reach the handler under their own names. -/
def PathReads (path partyType partyId : List Char) : Prop :=
  ∃ first second, matchParticipants path = some (first, second) ∧
    decode first = some partyType ∧ decode second = some partyId

/-- What reaches a handler: the two parameters of the path, and the rest of the
request as it is. -/
theorem receive_eq_some_iff {request : HttpRequest} {handler : Handler} {req : ExpressRequest} :
    receive request = some (handler, req) ↔
      handlerOf request.method = handler ∧
        PathReads (UrlText.before '?' request.url.toList) req.partyType.toList
          req.partyId.toList ∧
        req.query = (fun key => queryString (UrlText.queryValues key.toList
          (UrlText.after '?' request.url.toList))) ∧
        req.fspId = request.fspId := by
  obtain ⟨partyType, partyId, query, fspId⟩ := req
  simp only [receive, PathReads]
  cases matchParticipants (UrlText.before '?' request.url.toList) with
  | none => simp
  | some segments =>
    obtain ⟨first, second⟩ := segments
    simp only [Option.some.injEq, Prod.mk.injEq]
    constructor
    · intro h
      split at h
      · next decodedType decodedId hfirst hsecond =>
        obtain ⟨rfl, hreq⟩ := Prod.mk.inj (Option.some.inj h)
        obtain ⟨rfl, rfl, rfl, rfl⟩ := ExpressRequest.mk.inj hreq
        refine ⟨rfl, ⟨first, second, ⟨rfl, rfl⟩, ?_, ?_⟩, rfl, rfl⟩
        · rw [hfirst, String.toList_ofList]
        · rw [hsecond, String.toList_ofList]
      · cases h
    · rintro ⟨rfl, ⟨_, _, ⟨rfl, rfl⟩, hfirst, hsecond⟩, rfl, rfl⟩
      simp only [hfirst, hsecond, String.ofList_toList]

theorem pathReads_of_plain {partyType partyId : List Char} (htype : partyType ≠ [])
    (hid : partyId ≠ []) (hplainType : Plain partyType) (hplainId : Plain partyId) :
    PathReads (UrlText.before '?' (fixedPath ++ (partyType ++ '/' :: partyId)))
      partyType partyId := by
  have hquestion : '?' ∉ fixedPath ++ (partyType ++ '/' :: partyId) := by
    have hfixed : '?' ∉ fixedPath := by decide
    simp [hfixed, hplainType.2.1, hplainId.2.1]
  have hsplit : (partyType ++ '/' :: partyId).splitOn '/' = [partyType, partyId] := by
    rw [List.splitOn_append_cons_self_of_not_mem hplainType.1,
      List.splitOn_eq_singleton hplainId.1]
  rw [UrlText.before_of_not_mem hquestion]
  exact ⟨partyType, partyId, matchParticipants_fixedPath.mpr ⟨htype, hid, Or.inl hsplit⟩,
    decode_of_no_escape hplainType.2.2,
    decode_of_no_escape hplainId.2.2⟩

/-- What the route reads back is what was written only if that is plain: anything
else is cut off, taken for a separator or made shorter by decoding. -/
theorem plain_of_pathReads {partyType partyId : List Char}
    (h : PathReads (UrlText.before '?' (fixedPath ++ (partyType ++ '/' :: partyId)))
      partyType partyId) : Plain partyType ∧ Plain partyId := by
  have hfixed : UrlText.before '?' (fixedPath ++ (partyType ++ '/' :: partyId)) =
      fixedPath ++ UrlText.before '?' (partyType ++ '/' :: partyId) :=
    UrlText.before_append_of_not_mem (by decide) _
  rw [hfixed] at h
  obtain ⟨first, second, hmatch, hfirst, hsecond⟩ := h
  obtain ⟨-, -, hsplit⟩ := matchParticipants_fixedPath.mp hmatch
  generalize htext : UrlText.before '?' (partyType ++ '/' :: partyId) = text at hsplit
  have hquestion : '?' ∉ text := htext ▸ UrlText.not_mem_before
  obtain ⟨rest, hrest⟩ : text <+: partyType ++ '/' :: partyId := htext ▸ UrlText.before_isPrefix
  have hslash : ∀ piece ∈ text.splitOn '/', '/' ∉ piece := fun _ => UrlText.not_mem_of_mem_splitOn
  have hjoin : ['/'].intercalate (text.splitOn '/') = text := List.intercalate_splitOn '/'
  -- compare the sizes of the text written and of the text read
  have hsize := congrArg size hrest
  have hsizeFirst := size_decode_le hfirst
  have hsizeSecond := size_decode_le hsecond
  have hslashSize : ∀ tail, size ('/' :: tail) = 1 + size tail := fun tail => size_cons '/' tail
  rw [size_append, size_append, hslashSize] at hsize
  rcases hsplit with hsplit | hsplit
  · rw [hsplit] at hslash hjoin
    have hsame : first ++ '/' :: second = text := by simpa [List.intercalate] using hjoin
    have htextSize : size text = size first + (1 + size second) := by
      rw [← hsame, ← hslashSize, ← size_append]
    obtain ⟨hescapeFirst, rfl⟩ := eq_of_size_decode hfirst (by omega)
    obtain ⟨hescapeSecond, rfl⟩ := eq_of_size_decode hsecond (by omega)
    rw [← hsame] at hquestion
    obtain ⟨hquestionFirst, hquestionSecond⟩ := not_or.mp (mt List.mem_append.mpr hquestion)
    refine ⟨⟨hslash _ (List.mem_cons_self ..), hquestionFirst, hescapeFirst⟩,
      hslash _ (List.mem_cons_of_mem _ (List.mem_cons_self ..)), ?_, hescapeSecond⟩
    exact fun h => hquestionSecond (List.mem_cons_of_mem _ h)
  · rw [hsplit] at hjoin
    have htextSize : size text = size first + (1 + (size second + 1)) := by
      have hsame : first ++ '/' :: (second ++ ['/']) = text := by
        simpa [List.intercalate] using hjoin
      rw [← hsame, size_append, hslashSize, size_append]
      rfl
    omega

end RemoteOracleExpressRoutes

end AccountLookup
