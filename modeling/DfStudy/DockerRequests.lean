import DfStudy.CreatePayloads
import DfStudy.Support.JsonText
import DfStudy.Support.QueryText

/-! The requests the server sends to docker, and what is read from the query of their paths. -/

namespace DfStudy.DockerRequests
open Support Unicode JsonStrings JsonText QueryText

/-! The requests. Texts that go into a path are given by their code units. -/

/-- What an entry of `queryParams` can hold. -/
inductive QueryValue where
  | undefined
  | boolean (value : Bool)
  | string (units : CodeUnits)

/-- `join` takes what is not defined for nothing. -/
def QueryValue.text : QueryValue → CodeUnits
  | .undefined => []
  | .boolean value => codeUnits (if value then "true" else "false").toList
  | .string units => units

abbrev QueryParams := List (CodeUnits × QueryValue)

def question : UInt16 := 0x3F

def comma : UInt16 := 0x2C

def queryStr (queryParams : QueryParams) : List CodeUnits :=
  queryParams.map fun (key, value) => [equals].intercalate [key, value.text]

/-- A template takes an array for its items with a comma in between. -/
def pathOf (endpoint : CodeUnits) (queryParams : QueryParams) : CodeUnits :=
  endpoint ++ question :: [comma].intercalate (queryStr queryParams)

structure HttpRequest where
  socketPath : String
  contentType : String
  contentLength : Nat
  method : String
  path : CodeUnits
  body : List Char
  deriving DecidableEq

/-- `INVALID_PATH_REGEX` of node's http has no match in a path of such units. -/
def requestable (unit : UInt16) : Bool := 0x21 ≤ unit.toNat && unit.toNat ≤ 0xff

/-- `body` is given by its JSON. -/
def dockerReq (method : String) (endpoint : CodeUnits) (queryParams : QueryParams := [])
    (body : List Char := objectText []) : Except String HttpRequest :=
  let path := pathOf endpoint queryParams
  if path.all requestable then
    .ok
      { socketPath := "/var/run/docker.sock"
        contentType := "application/json"
        contentLength := (body.flatMap utf8).length
        method, path, body }
  else .error "Request path contains unescaped characters"

def containers (rest : CodeUnits) : CodeUnits := codeUnits "/containers/".toList ++ rest

def start (containerId : CodeUnits) : Except String HttpRequest :=
  dockerReq "POST" (containers (containerId ++ codeUnits "/start".toList))

def stopContainer (name : CodeUnits) : Except String HttpRequest :=
  dockerReq "POST" (containers (name ++ codeUnits "/stop".toList))

def rmContainer (name : CodeUnits) : Except String HttpRequest := dockerReq "DELETE" (containers name)

def create (name : CodeUnits) (config : List Char) : Except String HttpRequest :=
  dockerReq "POST" (containers (codeUnits "create".toList)) [(codeUnits "name".toList, .string name)] config

structure PsFilters where
  ancestor : Option CodeUnits

def PsFilters.json (filters : PsFilters) : List Char :=
  objectText (filters.ancestor.toList.map fun ancestor => ("ancestor".toList, quote ancestor))

def psParams (all : Option Bool) (filters : Option PsFilters) : QueryParams :=
  let filtersStr : QueryValue := match filters with
    | none => .undefined
    | some filters => .string (codeUnits filters.json)
  [(codeUnits "all".toList, (all.map QueryValue.boolean).getD .undefined), (codeUnits "filters".toList, filtersStr)]

def ps (all : Option Bool) (filters : Option PsFilters) : Except String HttpRequest :=
  dockerReq "GET" (containers (codeUnits "json".toList)) (psParams all filters)

/-! The queries. -/

/-- What follows the first question mark. -/
def query (path : CodeUnits) : CodeUnits := (path.dropWhile fun unit => unit ≠ question).tail

def texts (queryParams : QueryParams) : List (CodeUnits × CodeUnits) := queryParams.map fun (key, value) => (key, value.text)

/-- Nothing is encoded, and the entries stand with commas between them. -/
theorem pathOf_eq (endpoint : CodeUnits) (queryParams : QueryParams) :
    pathOf endpoint queryParams = endpoint ++ question :: written comma (texts queryParams) := by
  have each : queryStr queryParams = (texts queryParams).map fun entry => entry.1 ++ equals :: entry.2 := by
    unfold queryStr texts
    rw [List.map_map]
    refine List.map_congr_left fun entry _ => ?_
    simp [List.intercalate]
  unfold pathOf written
  rw [each]

theorem query_pathOf {endpoint : CodeUnits} (single : question ∉ endpoint) (queryParams : QueryParams) :
    query (pathOf endpoint queryParams) = written comma (texts queryParams) := by
  have before : ∀ unit ∈ endpoint, decide (unit ≠ question) = true := fun unit member =>
    decide_eq_true fun same => single (same ▸ member)
  unfold query
  rw [pathOf_eq, List.dropWhile_append_of_pos before, List.dropWhile_cons_of_neg (by simp), List.tail_cons]

theorem pathOf_all (endpoint : CodeUnits) (queryParams : QueryParams) : (pathOf endpoint queryParams).all requestable =
    (endpoint.all requestable && (texts queryParams).all fun entry => entry.1.all requestable && entry.2.all requestable) := by
  have mark : requestable question = true := by decide
  rw [pathOf_eq, List.all_append, List.all_cons, mark, Bool.true_and, written_all (by decide) (by decide)]

theorem read_iff (d : Decoder) (method : String) {endpoint : CodeUnits} (single : question ∉ endpoint)
    (queryParams : QueryParams) (body : List Char) :
    (∃ request, dockerReq method endpoint queryParams body = .ok request ∧
        d.parse (query request.path) = some (texts queryParams)) ↔
      endpoint.all requestable ∧ (∀ entry ∈ texts queryParams, entry.1.all requestable ∧ entry.2.all requestable) ∧
        d.Clear (texts queryParams) := by
  have sent : (pathOf endpoint queryParams).all requestable ↔ endpoint.all requestable ∧
      ∀ entry ∈ texts queryParams, entry.1.all requestable ∧ entry.2.all requestable := by
    simp only [pathOf_all, Bool.and_eq_true, List.all_eq_true]
  have read := @Decoder.parse_written d comma (by decide) (texts queryParams)
  rw [← query_pathOf single] at read
  unfold dockerReq
  dsimp only
  split
  next whole =>
    constructor
    · rintro ⟨request, same, parsed⟩
      cases same
      exact ⟨(sent.mp whole).1, (sent.mp whole).2, read.mp parsed⟩
    · rintro ⟨_, _, clear⟩
      exact ⟨_, rfl, read.mpr clear⟩
  next broken =>
    refine iff_of_false (fun ⟨_, same, _⟩ => nomatch same) fun ⟨first, second, _⟩ => broken (sent.mpr ⟨first, second⟩)

/-- What is read of a query is what has been asked for just when there is at most one entry, and nothing in it had to be
encoded. -/
theorem query_faithful (d : Decoder) (method : String) {endpoint : CodeUnits} (single : question ∉ endpoint)
    (queryParams : List (CodeUnits × CodeUnits)) (body : List Char) :
    (∃ request, dockerReq method endpoint (queryParams.map fun (key, value) => (key, .string value)) body = .ok request ∧
        d.parse (query request.path) = some queryParams) ↔
      endpoint.all requestable ∧ (∀ entry ∈ queryParams, entry.1.all requestable ∧ entry.2.all requestable) ∧
        d.Clear queryParams := by
  have same : texts (queryParams.map fun (key, value) => (key, .string value)) = queryParams := by
    unfold texts
    rw [List.map_map]
    exact List.map_id _
  have read := read_iff d method single (queryParams.map fun (key, value) => (key, .string value)) body
  rw [same] at read
  exact read

/-- A form decoder, where nothing but ASCII is escaped. -/
def formDecoder : Decoder where
  plus := true
  lenient := true
  text octets := if octets.all (· < 0x80) then some (octets.map .ofNat) else none
  empty := rfl
  short octets units decoded := by
    split at decoded
    next =>
      cases decoded
      exact Nat.le_of_eq (List.length_map ..)
    next => cases decoded

theorem query_faithful_sample :
    ∃ request, dockerReq "POST" (codeUnits "/containers/create".toList)
        ([(codeUnits "name".toList, codeUnits "g50051_m64738".toList)].map fun (key, value) => (key, .string value))
          (objectText []) = .ok request ∧
      formDecoder.parse (query request.path) = some [(codeUnits "name".toList, codeUnits "g50051_m64738".toList)] :=
  (query_faithful formDecoder "POST" (by decide) _ (objectText [])).mpr
    ⟨by decide, by decide, by decide, by decide, by decide, ⟨by decide, List.all_eq_true.mp (by decide)⟩,
      by decide, List.all_eq_true.mp (by decide)⟩

/-- The second of two entries is read as a part of the first. -/
theorem query_misread_sample :
    let filters : PsFilters := { ancestor := some (codeUnits "mumble_server".toList) }
    let queryParams := [(codeUnits "all".toList, codeUnits "true".toList), (codeUnits "filters".toList, codeUnits filters.json)]
    ∃ request, ps (some true) (some filters) = .ok request ∧
      dockerReq "GET" (codeUnits "/containers/json".toList) (queryParams.map fun (key, value) => (key, .string value))
        (objectText []) = .ok request ∧
      formDecoder.parse (query request.path) = some [(codeUnits "all".toList,
        codeUnits "true,filters=".toList ++ codeUnits filters.json)] ∧
      formDecoder.parse (query request.path) ≠ some queryParams := by
  refine ⟨_, rfl, ?_, ?_, ?_⟩
  · decide +kernel
  · decide +kernel
  · decide +kernel

/-! The requests of the server. -/

/-- No list of containers is read as it is asked for. -/
theorem ps_misread (d : Decoder) (all : Option Bool) (filters : Option PsFilters) :
    ¬∃ request, ps all filters = .ok request ∧ d.parse (query request.path) = some (texts (psParams all filters)) := by
  intro read
  exact ((read_iff d "GET" (by decide) (psParams all filters) (objectText [])).mp read).2.2

/-- What no decoder takes for anything else. -/
def solid (unit : UInt16) : Bool := requestable unit && unit ≠ percent && unit ≠ ampersand && unit ≠ 0x2B

theorem create_read (d : Decoder) {name : CodeUnits} (all : name.all solid) (config : List Char) :
    ∃ request, create name config = .ok request ∧
      d.parse (query request.path) = some [(codeUnits "name".toList, name)] := by
  have each : ∀ unit ∈ name, requestable unit ∧ unit ≠ percent ∧ unit ≠ ampersand ∧ unit ≠ 0x2B := by
    intro unit member
    simpa [solid, and_assoc] using List.all_eq_true.mp all unit member
  have requested : name.all requestable := List.all_eq_true.mpr fun unit member => (each unit member).1
  have plain : d.Plain name := Decoder.plain_of_free (fun member => (each _ member).2.1 rfl) fun member => (each _ member).2.2.2 rfl
  have key : d.Plain (codeUnits "name".toList) := Decoder.plain_of_free (by decide) (by decide)
  refine (read_iff d "POST" (by decide) [(codeUnits "name".toList, .string name)] config).mpr ⟨by decide, ?_, ?_⟩
  · intro entry member
    cases List.mem_singleton.mp member
    have word : (codeUnits "name".toList).all requestable := by decide
    exact ⟨word, requested⟩
  · exact ⟨by decide, fun member => (each _ member).2.2.1 rfl, by decide, key, plain⟩

theorem digit_solid {c : Char} (digit : c.isDigit = true) : (utf16 c).all solid := by
  unfold Char.isDigit at digit
  simp only [Bool.and_eq_true, decide_eq_true_eq, ge_iff_le, UInt32.le_iff_toNat_le] at digit
  have low : 48 ≤ c.toNat := digit.1
  have high : c.toNat ≤ 57 := digit.2
  have code : ∀ code : Fin 58, 48 ≤ code.val → solid (.ofNat code.val) := by decide
  unfold utf16
  dsimp only
  rw [if_pos (by omega), List.all_cons, List.all_nil, Bool.and_true]
  exact code ⟨c.toNat, by omega⟩ low

/-- The name the server gives a container is read as it is. -/
theorem murmur_read (d : Decoder) (host : Servers.Host) (sessionId grpcPort murmurPort : Nat) (config : List Char) :
    let name := codeUnits (Sessions.resolveMurmur host sessionId grpcPort murmurPort).murmurId.toList
    ∃ request, create name config = .ok request ∧
      d.parse (query request.path) = some [(codeUnits "name".toList, name)] := by
  have number (port : Nat) : (codeUnits (toString port).toList).all solid := by
    unfold codeUnits
    rw [List.all_flatMap, List.all_eq_true, Nat.toString_eq_repr, Nat.toList_repr]
    intro c digit
    exact digit_solid (Nat.isDigit_of_mem_toDigits (by decide) (by decide) digit)
  refine create_read d ?_ config
  have name : (Sessions.resolveMurmur host sessionId grpcPort murmurPort).murmurId =
      "g" ++ toString grpcPort ++ "_m" ++ toString murmurPort := rfl
  rw [name]
  simp only [codeUnits, String.toList_append, List.flatMap_append, List.all_append, Bool.and_eq_true]
  exact ⟨⟨⟨by decide, number grpcPort⟩, by decide⟩, number murmurPort⟩

theorem utf16_requestable (c : Char) : (utf16 c).all requestable = CreatePayloads.requestable c := by
  have bound := toNat_lt c
  unfold utf16 requestable CreatePayloads.requestable
  dsimp only
  split
  next single =>
    have code : (UInt16.ofNat c.toNat).toNat = c.toNat := UInt16.toNat_ofNat_of_lt' single
    rw [List.all_cons, List.all_nil, Bool.and_true, code]
  next pair =>
    have high : (UInt16.ofNat (0xD800 + (c.toNat - 0x10000) / 0x400)).toNat = 0xD800 + (c.toNat - 0x10000) / 0x400 :=
      UInt16.toNat_ofNat_of_lt' (by unfold UInt16.size; omega)
    have first : decide (0xD800 + (c.toNat - 0x10000) / 0x400 ≤ 0xff) = false := decide_eq_false (by omega)
    have second : decide (c.toNat ≤ 0xff) = false := decide_eq_false (by omega)
    rw [List.all_cons, high, first, second, Bool.and_false, Bool.and_false, Bool.false_and]

/-- The check of a name alone is that of the whole path. -/
theorem create_pathError (murmurId : String) (config : List Char) (message : String) :
    create (codeUnits murmurId.toList) config = .error message ↔ CreatePayloads.pathError murmurId = some message := by
  have name : (codeUnits murmurId.toList).all requestable = murmurId.toList.all CreatePayloads.requestable := by
    unfold codeUnits
    rw [List.all_flatMap]
    exact congrArg murmurId.toList.all (funext utf16_requestable)
  have endpoint : (containers (codeUnits "create".toList)).all requestable = true := by decide
  have word : (codeUnits "name".toList).all requestable = true := by decide
  have whole : (pathOf (containers (codeUnits "create".toList))
      [(codeUnits "name".toList, .string (codeUnits murmurId.toList))]).all requestable =
        murmurId.toList.all CreatePayloads.requestable := by
    rw [pathOf_all, endpoint, ← name]
    change (true && ((codeUnits "name".toList).all requestable && (codeUnits murmurId.toList).all requestable && true)) = _
    rw [word, Bool.true_and, Bool.true_and, Bool.and_true]
  unfold create dockerReq CreatePayloads.pathError
  dsimp only
  rw [whole]
  cases murmurId.toList.all CreatePayloads.requestable <;> simp

end DfStudy.DockerRequests
