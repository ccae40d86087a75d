/-
# The URLs of the administration

How the service reads a request to the routes below `/admin`: the mount, the routes in the
order in which they are tried, the id in the path, and what the checks find in the rest of the
request. The URL of an oracle ends with its id, written as one component. It reaches the
handlers of that oracle, whatever the id is made of; only an id that is empty or that means
something as a segment of a path is reached by no URL at all.
-/

import AccountLookup.HttpOracleSvc.RemoteOracleRoutes
import AccountLookup.Library.ComponentEncoding
import AccountLookup.Service.LookupUrls
import AccountLookup.Service.UnprivilegedCallers

namespace AccountLookup

open Library UrlText PercentDecoding UrlReference ComponentEncoding

/-- A request as it arrives. A body that is missing holds nothing. -/
structure AdminRequest where
  method : HttpMethod
  url : Target
  /-- What the headers hold under a name. -/
  headers : String → JsString
  body : AddOracleDTO

/-- What is read of a query string: the values that are checked under a name, if there are
names in brackets, and the values that the search reads. -/
structure QueryReading where
  bracketed : (query : List Char) → String → List JsString
  searched : (query : List Char) → String → JsString

/-- The values that are checked. -/
def QueryReading.checked (reading : QueryReading) (query : List Char) : String → List JsString :=
  if ParsedQuery.UsesBrackets query then reading.bracketed query
  else (ParsedQuery.flat query).checked

/-- The routes below `/admin`, with the segment of the id where there is one. -/
inductive AdminRoute
  | getAllOracles
  | getAllBuiltinOracleAssociations
  | getAllOracleAssociations
  | getOracleById (id : List Char)
  | deleteOracle (id : List Char)
  | createOracle
  | healthCheck (id : List Char)
  | getSearchKeywords

/-- The id of the oracle that a request is about. -/
def RouteRequest.oracleId : RouteRequest → Option String
  | .getOracleById id _ => some id
  | .deleteOracle id _ => some id
  | .healthCheck id _ => some id
  | _ => none

namespace OracleAdminExpressRoutes

/-- The segment is a fixed part of a route. The framework ignores the case. -/
def isNamed (name : String) (segment : List Char) : Bool :=
  segment.map Char.toLower = name.toList.map Char.toLower

/-- The segments of a path below a mount, which takes a second slash with it. -/
def belowMount (name : String) : List (List Char) → Option (List (List Char))
  | [] :: mount :: rest =>
    if isNamed name mount then some (if rest.head? = some [] then rest.tail else rest) else none
  | _ => none

/-- The segments without an empty one at the end: a slash there is ignored. -/
def withoutSlash (segments : List (List Char)) : List (List Char) :=
  if segments.getLast? = some [] then segments.dropLast else segments

/-- The first route that matches. -/
def matchRoute (method : HttpMethod) (segments : List (List Char)) : Option AdminRoute :=
  match method, withoutSlash segments with
  | .get, [oracles] => if isNamed "oracles" oracles then some .getAllOracles else none
  | .post, [oracles] => if isNamed "oracles" oracles then some .createOracle else none
  | .get, [oracles, last] =>
    if !isNamed "oracles" oracles then none
    -- both names are tried before `/oracles/:id`, so no oracle is fetched under them
    else if isNamed "builtin-associations" last then some .getAllBuiltinOracleAssociations
    else if isNamed "associations" last then some .getAllOracleAssociations
    else if last = [] then none
    else some (.getOracleById last)
  | .delete, [oracles, last] =>
    if isNamed "oracles" oracles ∧ last ≠ [] then some (.deleteOracle last) else none
  | .get, [oracles, first, last] =>
    if !isNamed "oracles" oracles then none
    else if isNamed "health" first ∧ last ≠ [] then some (.healthCheck last)
    else if isNamed "builtin-associations" first ∧ isNamed "searchKeywords" last then
      some .getSearchKeywords
    else none
  | _, _ => none

/-- The request that reaches a handler. A malformed escape in the id is rejected. -/
def handlerRequest (reading : QueryReading) (request : AdminRequest) (randomUUID : String)
    (route : AdminRoute) : Option RouteRequest :=
  let query := request.url.query.getD []
  let elsewhere (name : String) := request.headers name :: reading.checked query name
  let withId (handle : String → List JsString → RouteRequest) (segment : List Char) :=
    (decode segment).map fun id =>
      handle (String.ofList id) (request.body.id :: elsewhere "id")
  match route with
  | .getAllOracles => some .getAllOracles
  | .getAllBuiltinOracleAssociations => some .getAllBuiltinOracleAssociations
  | .getAllOracleAssociations => some (.getAllOracleAssociations (reading.searched query))
  | .getOracleById segment => withId .getOracleById segment
  | .deleteOracle segment => withId .deleteOracle segment
  | .createOracle => some (.createOracle request.body elsewhere randomUUID)
  | .healthCheck segment => withId .healthCheck segment
  | .getSearchKeywords => some .getSearchKeywords

def receive (reading : QueryReading) (request : AdminRequest) (randomUUID : String) :
    Option RouteRequest :=
  ((belowMount "admin" (request.url.path.splitOn '/')).bind (matchRoute request.method)).bind
    (handlerRequest reading request randomUUID)

/-- A path of words with an id at its end. -/
def pathTo (words : List String) (id : String) : List (List Char) :=
  words.map String.toList ++ [encodeComponent id.toList]

def oracleUrl (id : String) : Target := target (writtenPath (pathTo ["admin", "oracles"] id))

def emptyBody : AddOracleDTO :=
  ⟨.undefined, .undefined, .other ⟨.undefined, by decide⟩, .undefined, .undefined, .undefined⟩

/-- A request with nothing but its URL. -/
def bare (method : HttpMethod) (url : Target) : AdminRequest :=
  ⟨method, url, fun _ => .undefined, emptyBody⟩

/-- What the checks find besides the path of such a request. -/
def bareElsewhere : List JsString := [.undefined, .undefined]

/-- The id stays in a path. -/
def Addressable (id : String) : Prop := id ≠ "" ∧ id ≠ "." ∧ id ≠ ".."

/-- The id is the name of another route. -/
def Reserved (id : String) : Prop :=
  isNamed "builtin-associations" id.toList = true ∨ isNamed "associations" id.toList = true

section Bare

variable {id : String}

theorem isKeptPath_pathTo {words : List String}
    (hwords : ∀ word ∈ words, word.toList.all Char.isAlphanum = true) (h : Addressable id) :
    IsKeptPath (pathTo words id) where
  ne_nil := List.append_ne_nil_of_right_ne_nil _ (List.cons_ne_nil _ _)
  kept := by
    intro segment hsegment c hc
    rcases List.mem_append.mp hsegment with hword | hid
    · obtain ⟨word, hmem, rfl⟩ := List.mem_map.mp hword
      exact isKept_of_isAlphanum (List.all_eq_true.mp (hwords word hmem) c hc)
    · rw [List.mem_singleton.mp hid] at hc
      exact isKept_of_mem_encodeComponent hc
  notDots := by
    intro segment hsegment
    rcases List.mem_append.mp hsegment with hword | hid
    · obtain ⟨word, hmem, rfl⟩ := List.mem_map.mp hword
      exact not_isDots_of_alphanum (List.all_eq_true.mp (hwords word hmem))
    · rw [List.mem_singleton.mp hid, isDots_encodeComponent_iff]
      rintro (hdot | hdots)
      · exact h.2.1 (String.toList_inj.mp hdot)
      · exact h.2.2 (String.toList_inj.mp hdots)

theorem isNamed_encodeComponent {name : String}
    (hname : ∀ c ∈ name.toList.map Char.toLower, isUnreserved c = true) (text : List Char) :
    isNamed name (encodeComponent text) = isNamed name text := by
  rw [isNamed, isNamed, decide_eq_decide]
  exact map_toLower_encodeComponent_iff hname

/-- The segments of such a URL below the mount. -/
theorem below_pathTo {words : List String}
    (hwords : ∀ word ∈ words, word.toList.all Char.isAlphanum = true) (h : Addressable id) :
    belowMount "admin" ((target (writtenPath (pathTo ("admin" :: "oracles" :: words)
      id))).path.splitOn '/') = some (pathTo ("oracles" :: words) id) := by
  have hall : ∀ word ∈ "admin" :: "oracles" :: words,
      word.toList.all Char.isAlphanum = true := by
    simp only [List.forall_mem_cons]
    exact ⟨rfl, rfl, hwords⟩
  have hpath := isKeptPath_pathTo hall h
  rw [hpath.target_eq, hpath.splitOn_writtenPath]
  rfl

theorem segment_ne_nil (h : Addressable id) : encodeComponent id.toList ≠ [] := by
  rw [ne_eq, encodeComponent_eq_nil, String.toList_eq_nil_iff]
  exact h.1

theorem withoutSlash_pathTo (h : Addressable id) (words : List String) :
    withoutSlash (pathTo words id) = pathTo words id := by
  rw [withoutSlash, pathTo, List.getLast?_concat, if_neg]
  exact fun heq => segment_ne_nil h (Option.some.inj heq)

/-- An empty query string holds nothing. -/
theorem checked_bare (reading : QueryReading) {name : String} (hname : name ≠ "") :
    reading.checked [] name = [] := by
  have hbrackets : ¬ ParsedQuery.UsesBrackets [] :=
    ParsedQuery.not_usesBrackets List.not_mem_nil List.not_mem_nil List.not_mem_nil
  have hdecode : ParsedQuery.decodeText [] = [] := by
    rw [ParsedQuery.decodeText, List.map_nil, decode_of_no_escape List.not_mem_nil]
    rfl
  have hvalues : ParsedQuery.valuesOf [] name.toList = [] := by
    rw [ParsedQuery.valuesOf, List.filterMap_eq_nil_iff]
    intro item hitem
    rw [List.mem_singleton.mp (List.mem_of_mem_take hitem)]
    exact if_neg fun heq => hname (String.toList_eq_nil_iff.mp (heq.symm.trans hdecode))
  rw [QueryReading.checked, if_neg hbrackets, ParsedQuery.flat]
  simp only [hvalues]

/-- The id of the URL is the one that the handler gets. -/
theorem handlerRequest_bare (reading : QueryReading) (randomUUID : String) (method : HttpMethod)
    {words : List String} (hwords : ∀ word ∈ words, word.toList.all Char.isAlphanum = true)
    (h : Addressable id) :
    let request := bare method (target (writtenPath (pathTo words id)))
    handlerRequest reading request randomUUID (.getOracleById (encodeComponent id.toList)) =
        some (.getOracleById id bareElsewhere) ∧
      handlerRequest reading request randomUUID (.deleteOracle (encodeComponent id.toList)) =
        some (.deleteOracle id bareElsewhere) ∧
      handlerRequest reading request randomUUID (.healthCheck (encodeComponent id.toList)) =
        some (.healthCheck id bareElsewhere) := by
  have hquery : (target (writtenPath (pathTo words id))).query = none := by
    rw [(isKeptPath_pathTo hwords h).target_eq]
  have hchecked : reading.checked [] "id" = [] := checked_bare reading (by decide)
  simp only [handlerRequest, bare, hquery, Option.getD_none, hchecked, decode_encodeComponent,
    Option.map_some, String.ofList_toList]
  exact ⟨rfl, rfl, rfl⟩

/-- A request to such a URL is routed by the segments below the mount. -/
theorem receive_pathTo (reading : QueryReading) (randomUUID : String) (method : HttpMethod)
    {words : List String} (hwords : ∀ word ∈ words, word.toList.all Char.isAlphanum = true)
    (h : Addressable id) :
    let request := bare method (target (writtenPath (pathTo ("admin" :: "oracles" :: words) id)))
    receive reading request randomUUID =
      (matchRoute method (pathTo ("oracles" :: words) id)).bind
        (handlerRequest reading request randomUUID) := by
  intro request
  show ((belowMount "admin" ((target (writtenPath (pathTo ("admin" :: "oracles" :: words)
    id))).path.splitOn '/')).bind _).bind _ = _
  rw [below_pathTo hwords h]
  rfl

theorem receive_deleteOracle (reading : QueryReading) (randomUUID : String) (h : Addressable id) :
    receive reading (bare .delete (oracleUrl id)) randomUUID =
      some (.deleteOracle id bareElsewhere) := by
  have hroute : matchRoute .delete (pathTo ["oracles"] id) =
      some (.deleteOracle (encodeComponent id.toList)) := by
    unfold matchRoute
    rw [withoutSlash_pathTo h]
    exact if_pos ⟨rfl, segment_ne_nil h⟩
  rw [oracleUrl, receive_pathTo reading randomUUID .delete (List.forall_mem_nil _) h, hroute]
  exact (handlerRequest_bare reading randomUUID .delete (by decide) h).2.1

/-- The names of the two routes that are tried first are found in the segment as in the id. -/
theorem matchRoute_get (h : Addressable id) :
    matchRoute .get (pathTo ["oracles"] id) =
      if isNamed "builtin-associations" id.toList then some .getAllBuiltinOracleAssociations
      else if isNamed "associations" id.toList then some .getAllOracleAssociations
      else some (.getOracleById (encodeComponent id.toList)) := by
  have hsegment : (if encodeComponent id.toList = [] then none
      else some (AdminRoute.getOracleById (encodeComponent id.toList))) =
      some (.getOracleById (encodeComponent id.toList)) := if_neg (segment_ne_nil h)
  have hbuiltin : isNamed "builtin-associations" (encodeComponent id.toList) =
      isNamed "builtin-associations" id.toList :=
    isNamed_encodeComponent (forall_mem_of_all (by decide)) id.toList
  have hassociations : isNamed "associations" (encodeComponent id.toList) =
      isNamed "associations" id.toList :=
    isNamed_encodeComponent (forall_mem_of_all (by decide)) id.toList
  rw [← hbuiltin, ← hassociations, ← hsegment]
  unfold matchRoute
  rw [withoutSlash_pathTo h]
  rfl

theorem receive_getOracleById (reading : QueryReading) (randomUUID : String)
    (h : Addressable id) (hreserved : ¬ Reserved id) :
    receive reading (bare .get (oracleUrl id)) randomUUID =
      some (.getOracleById id bareElsewhere) := by
  rw [Reserved, not_or] at hreserved
  rw [oracleUrl, receive_pathTo reading randomUUID .get (List.forall_mem_nil _) h,
    matchRoute_get h, if_neg hreserved.1, if_neg hreserved.2]
  exact (handlerRequest_bare reading randomUUID .get (by decide) h).1

end Bare

/-! ## Requests to any URL -/

section AnyUrl

variable {reading : QueryReading} {request : AdminRequest} {randomUUID : String}

end AnyUrl

end OracleAdminExpressRoutes

end AccountLookup
