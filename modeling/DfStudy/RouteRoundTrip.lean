import DfStudy.RouteTexts

/-! Which parameters come back from the address bar. -/

namespace DfStudy.RouteRoundTrip
open Support.Unicode Support.JsonStrings Support.JsonText Support.UriText HashRoutes RouteWeights RouteTexts

/-- The text of a number is a literal of JSON, and is read as the number. -/
structure Printed (numberText : ℚ → List Char) (toNumber : List Char → Option Js.Number) (value : ℚ) : Prop where
  filled : numberText value ≠ []
  numeric : ∀ c ∈ numberText value, isNumeric c
  read : toNumber (numberText value) = some (.finite value)

section
variable {numberText : ℚ → List Char} {toNumber : List Char → Option Js.Number}

def Param.Printed (numberText : ℚ → List Char) (toNumber : List Char → Option Js.Number) : Param → Prop
  | .number (.finite value) => RouteRoundTrip.Printed numberText toNumber value
  | _ => True

/-- What `JSON.stringify` makes of a parameter. -/
def Param.written : Param → Json Js.Number
  | .number (.finite value) => .number (.finite value)
  | .number _ => .null
  | .string units => .string units

/-! Sizes. -/

def jsonSize : Json Js.Number → Nat
  | .string units => units.length
  | _ => 0

def fieldSize (field : CodeUnits × Json Js.Number) : Nat := field.1.length + jsonSize field.2

def paramTexts (numberText : ℚ → List Char) (param : CodeUnits × Param) : List Char × List Char :=
  (quoteBody param.1, paramText numberText param.2)

def paramField (param : CodeUnits × Param) : CodeUnits × Json Js.Number := (param.1, param.2.json)

def writtenField (param : CodeUnits × Param) : CodeUnits × Json Js.Number := (param.1, Param.written param.2)

theorem numeric_plain {c : Char} (numeric : isNumeric c) : heavy c = false ∧ c ≠ '%' ∧ c ≠ '?' := by
  have all : ∀ code : Fin 0x80, isNumeric (Char.ofNat code) →
      heavy (Char.ofNat code) = false ∧ Char.ofNat code ≠ '%' ∧ Char.ofNat code ≠ '?' := by
    decide
  have small : c.toNat < 0x80 := by
    unfold isNumeric at numeric
    simp only [Bool.or_eq_true, Bool.and_eq_true, decide_eq_true_eq] at numeric
    rcases numeric with ((((figure | rfl) | rfl) | rfl) | rfl) | rfl
    · omega
    all_goals decide
  have known := all ⟨c.toNat, small⟩
  rw [Char.ofNat_toNat] at known
  exact known numeric

theorem weight_numeric {text : List Char} (numeric : ∀ c ∈ text, isNumeric c) : weight text = 0 := by
  refine List.countP_eq_zero.mpr fun c member => ?_
  rw [(numeric_plain (numeric c member)).1]
  exact Bool.false_ne_true

theorem weight_paramText {value : Param} (printed : Param.Printed numberText toNumber value) :
    weight (paramText numberText value) = jsonWeight value.json := by
  cases value with
  | string units =>
    change weight ('"' :: (quoteBody units ++ ['"'])) = _
    rw [weight_light (by decide), weight_append]
    rfl
  | number value =>
    cases value with
    | finite value => exact weight_numeric printed.numeric
    | infinity negative => rfl
    | nan => rfl

theorem weight_stringify {params : Params} (printed : ∀ param ∈ params, Param.Printed numberText toNumber param.2) :
    weight (stringify numberText params) = fieldsWeight (params.map paramField) := by
  unfold stringify
  rw [weight_objectText, fieldsWeight_sum, List.map_map, List.map_map]
  congr 1
  refine List.map_congr_left fun param member => ?_
  exact congrArg (weight (quoteBody param.1) + ·) (weight_paramText (printed param member))

/-! What the text is read as. -/

/-- What the written text of a parameter is read as. -/
theorem reads_param {value : Param} (printed : Param.Printed numberText toNumber value) {rest : List Char}
    (delimited : Delimited rest) :
    Reads toNumber (.value (Param.written value)) (paramText numberText value ++ rest) rest := by
  cases value with
  | string units => exact reads_string toNumber (readString_quoteBody units rest)
  | number value =>
    cases value with
    | finite value => exact reads_number toNumber printed.filled printed.numeric printed.read delimited
    | infinity negative => exact reads_null toNumber rest
    | nan => exact reads_null toNumber rest

theorem written_members {params : Params} (printed : ∀ param ∈ params, Param.Printed numberText toNumber param.2) :
    ∃ members : List (Member toNumber), members.map Member.text = params.map (paramTexts numberText) ∧
      members.map Member.field = params.map writtenField := by
  induction params with
  | nil => exact ⟨[], rfl, rfl⟩
  | cons param params ih =>
    obtain ⟨members, texts, fields⟩ := ih fun later member => printed later (List.mem_cons_of_mem _ member)
    refine ⟨{
      keyText := quoteBody param.1
      valueText := paramText numberText param.2
      key := param.1
      value := Param.written param.2
      named := readString_quoteBody param.1
      valued := fun rest => reads_param (printed param List.mem_cons_self) } :: members, ?_, ?_⟩
    · rw [List.map_cons, texts]
      rfl
    · rw [List.map_cons, fields]
      rfl

theorem parse_stringify {params : Params} (distinct : (params.map (·.1)).Nodup)
    (printed : ∀ param ∈ params, Param.Printed numberText toNumber param.2) :
    parse toNumber (stringify numberText params) = some (.object (params.map writtenField)) := by
  obtain ⟨members, texts, fields⟩ := written_members printed
  have keys : ((params.map writtenField).map (·.1)).Nodup := by
    rw [List.map_map]
    exact distinct
  have parsed := parse_objectText members
  rw [texts, fields, assemble_distinct keys] at parsed
  exact parsed

/-- What the lightened text of a parameter is read as. -/
theorem reads_lightened {value : Param} (printed : Param.Printed numberText toNumber value) :
    ∃ read : Json Js.Number,
      (∀ rest, Delimited rest → Reads toNumber (.value read) (lighten (paramText numberText value) ++ rest) rest) ∧
        jsonSize read ≤ jsonSize value.json ∧
        (jsonSize value.json ≤ jsonSize read → lighten (paramText numberText value) = paramText numberText value) := by
  have unchanged {text : List Char} (free : ∀ c ∈ text, c ≠ '%') : lighten text = text := by
    have same := lighten_free free []
    rwa [List.append_nil, show lighten [] = [] from rfl, List.append_nil] at same
  cases value with
  | string units =>
    obtain ⟨shorter, read, less, same⟩ := lightened units
    have text : lighten (paramText numberText (.string units)) = '"' :: lighten (quoteBody units) ++ ['"'] := by
      change lighten ('"' :: (quoteBody units ++ ['"'])) = _
      rw [lighten_plain (by decide), lighten_append (by decide) (by decide)]
      rfl
    refine ⟨.string shorter, fun rest _ => ?_, less, fun equal => ?_⟩
    · rw [text]
      exact reads_string toNumber (read rest)
    · rw [text, same equal]
      rfl
  | number value =>
    cases value with
    | finite value =>
      have same := unchanged fun c member => (numeric_plain (printed.numeric c member)).2.1
      refine ⟨.number (.finite value), fun rest delimited => ?_, le_rfl, fun _ => same⟩
      exact same.symm ▸ reads_number toNumber printed.filled printed.numeric printed.read delimited
    | infinity negative =>
      exact ⟨.null, fun rest _ => reads_null toNumber rest, le_rfl, fun _ => rfl⟩
    | nan => exact ⟨.null, fun rest _ => reads_null toNumber rest, le_rfl, fun _ => rfl⟩

theorem lightened_members {params : Params} (printed : ∀ param ∈ params, Param.Printed numberText toNumber param.2) :
    ∃ members : List (Member toNumber),
      members.map Member.text = (params.map (paramTexts numberText)).map (Prod.map lighten lighten) ∧
        ((members.map Member.field).map fieldSize).sum ≤ ((params.map paramField).map fieldSize).sum ∧
        (((params.map paramField).map fieldSize).sum ≤ ((members.map Member.field).map fieldSize).sum →
          (params.map (paramTexts numberText)).map (Prod.map lighten lighten) = params.map (paramTexts numberText)) := by
  induction params with
  | nil => exact ⟨[], rfl, le_rfl, fun _ => rfl⟩
  | cons param params ih =>
    obtain ⟨members, texts, less, same⟩ := ih fun later member => printed later (List.mem_cons_of_mem _ member)
    obtain ⟨shorter, named, fewer, key⟩ := lightened param.1
    obtain ⟨read, valued, smaller, value⟩ := reads_lightened (printed param List.mem_cons_self)
    refine ⟨{
      keyText := lighten (quoteBody param.1)
      valueText := lighten (paramText numberText param.2)
      key := shorter
      value := read
      named
      valued } :: members, ?_, ?_, fun equal => ?_⟩
    · rw [List.map_cons, texts]
      rfl
    · simp only [List.map_cons, List.sum_cons, fieldSize, Member.field, paramField]
      omega
    · simp only [List.map_cons, List.sum_cons, fieldSize, Member.field, paramField] at equal
      have first : Prod.map lighten lighten (paramTexts numberText param) = paramTexts numberText param :=
        Prod.ext (key (by omega)) (value (by omega))
      rw [List.map_cons, List.map_cons, first, same (by omega)]

/-! The condition, on the text. -/

theorem survives_stringify {params : Params} (printed : ∀ param ∈ params, Param.Printed numberText toNumber param.2) :
    survives (codes (stringify numberText params)) ↔ ∀ param ∈ params, survives (param.1.map UInt16.toNat) ∧
      ∀ units, param.2 = .string units → survives (units.map UInt16.toNat) := by
  unfold stringify
  rw [survives_objectText, List.all_map, List.all_eq_true]
  refine forall₂_congr fun param member => ?_
  have number {text : List Char} (numeric : ∀ c ∈ text, isNumeric c) : survives (codes text) := by
    have free : ∀ code ∈ codes text, code ≠ 0x25 ∧ code ≠ 0x3F := by
      intro code listed
      obtain ⟨c, here, rfl⟩ := List.mem_map.mp listed
      obtain ⟨-, percent, question⟩ := numeric_plain (numeric c here)
      exact ⟨fun same => percent (char_of_code same), fun same => question (char_of_code same)⟩
    have all := survives_free free []
    rwa [List.append_nil] at all
  have text : survives (codes (paramText numberText param.2)) ↔
      ∀ units, param.2 = .string units → survives (units.map UInt16.toNat) := by
    have known := printed param member
    cases value : param.2 with
    | string units =>
      have body : survives (codes (paramText numberText (.string units))) = survives (units.map UInt16.toNat) := by
        change survives (codes ('"' :: (quoteBody units ++ ['"']))) = _
        unfold codes
        rw [List.map_cons, survives_plain (by decide) (by decide), List.map_append, List.map_singleton,
          survives_append (by decide) (by decide) (by decide)]
        exact (Bool.and_true _).trans (survives_quoteBody units)
      rw [body]
      exact ⟨fun kept _ same => by cases same; exact kept, fun all => all units rfl⟩
    | number value' =>
      have kept : survives (codes (paramText numberText (.number value'))) := by
        cases value' with
        | finite finite =>
          rw [value] at known
          exact number known.numeric
        | infinity negative => rfl
        | nan => rfl
      exact ⟨fun _ => nofun, fun _ => kept⟩
  change (survives (codes (quoteBody param.1)) && survives (codes (paramText numberText param.2))) = true ↔ _
  rw [Bool.and_eq_true, survives_quoteBody, text]

/-- A parameter that survives is written as it is. -/
theorem written_survives {value : Param} (kept : value.Survives) : Param.written value = value.json := by
  cases value with
  | string units => rfl
  | number value =>
    cases value with
    | finite value => rfl
    | infinity negative => exact kept.elim
    | nan => exact kept.elim

theorem returns_of_survives {params : Params} (distinct : (params.map (·.1)).Nodup)
    (printed : ∀ param ∈ params, Param.Printed numberText toNumber param.2)
    (kept : ∀ param ∈ params, survives (param.1.map UInt16.toNat) ∧ param.2.Survives) :
    ((decodeURI ((stringify numberText params).takeWhile fun c => c ≠ '?')).bind (parse toNumber)) =
      some (.object (params.map paramField)) := by
  have text : survives (codes (stringify numberText params)) := by
    refine (survives_stringify printed).mpr fun param member => ?_
    refine ⟨(kept param member).1, fun units same => ?_⟩
    have inner := (kept param member).2
    rw [same] at inner
    exact inner
  obtain ⟨free, parts, read, stays⟩ := tokens_of_survives text
  have whole : (stringify numberText params).takeWhile (fun c => c ≠ '?') = stringify numberText params := by
    rw [List.takeWhile_eq_self_iff]
    intro c member
    rw [decide_eq_true_eq]
    rintro rfl
    exact free member
  have decoded : decodeURI (stringify numberText params) = some (stringify numberText params) := by
    unfold decodeURI
    rw [read, Option.bind_some, decodeFrom_kept stays, tokens_text read]
  have fields : params.map writtenField = params.map paramField :=
    List.map_congr_left fun param member => congrArg (param.1, ·) (written_survives (kept param member).2)
  rw [whole, decoded, Option.bind_some, parse_stringify distinct printed, fields]

theorem lightText_length (token : Token) : (lightText token).length ≤ token.text.length := by
  cases token with
  | char c => exact le_rfl
  | escape high low byte =>
    unfold lightText
    dsimp only
    split
    next => exact Nat.le_add_left 1 2
    next => exact le_rfl

theorem lightTexts_length (parts : List Token) :
    (parts.flatMap lightText).length ≤ (parts.flatMap Token.text).length := by
  induction parts with
  | nil => exact le_rfl
  | cons token parts ih =>
    rw [List.flatMap_cons, List.flatMap_cons, List.length_append, List.length_append]
    exact Nat.add_le_add (lightText_length token) ih

theorem kept_of_lightText {token : Token} (unchanged : Unchanged token)
    (same : token.text.length ≤ (lightText token).length) : token.Kept := by
  cases token with
  | char c => trivial
  | escape high low byte =>
    rcases unchanged with kept | light
    · exact kept
    · rw [show lightText (.escape high low byte) = [Char.ofNat byte] from if_pos light] at same
      have shorter : 3 ≤ 1 := same
      omega

/-- Where nothing gets shorter, every escape stays. -/
theorem kept_of_length {parts : List Token} (unchanged : ∀ token ∈ parts, Unchanged token)
    (same : (parts.flatMap Token.text).length ≤ (parts.flatMap lightText).length) : ∀ token ∈ parts, token.Kept := by
  induction parts with
  | nil => exact fun token member => absurd member List.not_mem_nil
  | cons token parts ih =>
    have first := lightText_length token
    have later := lightTexts_length parts
    rw [List.flatMap_cons, List.flatMap_cons, List.length_append, List.length_append] at same
    have here : token.Kept := kept_of_lightText (unchanged token List.mem_cons_self) (by omega)
    have rest := ih (fun other member => unchanged other (List.mem_cons_of_mem _ member)) (by omega)
    exact List.forall_mem_cons.mpr ⟨here, rest⟩

/-- Decoding that returns the object has changed nothing. -/
theorem decoded_same {params : Params} (printed : ∀ param ∈ params, Param.Printed numberText toNumber param.2)
    {decoded : List Char} (read : decodeURI ((stringify numberText params).takeWhile fun c => c ≠ '?') = some decoded)
    {fields : List (CodeUnits × Json Js.Number)} (parsed : parse toNumber decoded = some (.object fields))
    (same : fields.Perm (params.map paramField)) :
    decoded = stringify numberText params ∧ survives (codes (stringify numberText params)) := by
  have weights : fieldsWeight fields = weight (stringify numberText params) := by
    rw [weight_stringify printed, fieldsWeight_sum, fieldsWeight_sum]
    exact (same.map fieldWeight).sum_nat
  have heavier : fieldsWeight fields ≤ weight decoded := weight_parse parsed
  obtain ⟨parts, tokenized, decodes⟩ := Option.bind_eq_some_iff.mp read
  have faithful := faithful_tokens tokenized
  have lighter := weight_decodeFrom faithful (fun impossible => absurd rfl impossible) decodes
  have split := List.takeWhile_append_dropWhile (p := fun c => decide (c ≠ '?')) (l := stringify numberText params)
  have text := tokens_text tokenized
  rw [text, if_pos rfl, Nat.add_zero] at lighter
  have total := congrArg weight split
  rw [weight_append] at total
  -- the part behind a separator would weigh something
  have whole : (stringify numberText params).takeWhile (fun c => c ≠ '?') = stringify numberText params := by
    cases behind : (stringify numberText params).dropWhile fun c => c ≠ '?' with
    | nil =>
      rw [behind, List.append_nil] at split
      exact split
    | cons c later =>
      have question : c = '?' := by
        have stopped := List.head_dropWhile_not (fun c => decide (c ≠ '?')) (l := stringify numberText params) (by rw [behind]; exact List.cons_ne_nil _ _)
        simp only [behind, List.head_cons, decide_eq_false_iff_not, not_not] at stopped
        exact stopped
      rw [behind, question, weight_heavy (by decide)] at total
      omega
  rw [whole] at text lighter tokenized
  obtain ⟨unchanged, lightened⟩ := unchanged_decodeFrom faithful decodes (by rw [text]; omega)
  -- what is left to decode would make the strings shorter
  obtain ⟨members, texts, less, unlightened⟩ := lightened_members printed
  have read' : decoded = lighten (stringify numberText params) := by rw [lightened, ← lighten_tokens faithful, text]
  have shape : lighten (stringify numberText params) = objectText (members.map Member.text) := by
    rw [texts]
    exact lighten_objectText _
  have again := parse_objectText members
  rw [← shape, ← read', parsed] at again
  have assembled : fields = assemble (members.map Member.field) := by
    cases again
    rfl
  have sizes : ((params.map paramField).map fieldSize).sum ≤ ((members.map Member.field).map fieldSize).sum := by
    rw [← (same.map fieldSize).sum_nat, assembled]
    exact sum_assemble fieldSize _
  have settled : decoded = stringify numberText params := by
    rw [read', shape, texts, unlightened sizes]
    rfl
  refine ⟨settled, ?_⟩
  have kept := kept_of_length unchanged (by rw [text, ← lightened, settled])
  have free : '?' ∉ parts.flatMap Token.text := by
    rw [text, ← whole]
    intro member
    have stopped := List.mem_takeWhile_imp member
    simp at stopped
  have all := survives_of_tokens faithful kept free
  rwa [text] at all

theorem onHashChange_ok {routeName : String} (named : Named routeName) {params : Params}
    {fields : List (CodeUnits × Json Js.Number)}
    (returned : onHashChange toNumber (gotoRoute numberText routeName params) = .ok (routeName.toList, .object fields)) :
    ∃ decoded, decodeURI ((stringify numberText params).takeWhile fun c => c ≠ '?') = some decoded ∧
      parse toNumber decoded = some (.object fields) := by
  rw [onHashChange_gotoRoute numberText toNumber named] at returned
  split at returned
  next => cases returned
  next decoded read =>
    split at returned
    next => cases returned
    next json parsed =>
      cases returned
      exact ⟨decoded, read, parsed⟩

/-- Numbers are written, unless they are infinite or not a number. -/
theorem survives_written {params : Params} (same : (params.map writtenField).Perm (params.map paramField))
    {param : CodeUnits × Param} (member : param ∈ params)
    (strings : ∀ units, param.2 = .string units → survives (units.map UInt16.toNat)) : param.2.Survives := by
  obtain ⟨other, -, written⟩ := List.mem_map.mp (same.mem_iff.mpr (List.mem_map_of_mem member))
  have value : Param.written other.2 = param.2.json := congrArg Prod.snd written
  cases kind : param.2 with
  | string units => exact strings units kind
  | number number =>
    rw [kind] at value
    cases number with
    | finite finite => trivial
    | infinity negative =>
      rcases other with ⟨key, units | finite | infinite | nan⟩ <;> cases value
    | nan =>
      rcases other with ⟨key, units | finite | infinite | nan⟩ <;> cases value

/-- A route and its parameters come back just when every key and every string among the values survives, and every
number is finite. -/
theorem routes_round_trip {routeName : String} (known : routeName ∈ routeNames) {params : Params}
    (distinct : (params.map (·.1)).Nodup) (printed : ∀ param ∈ params, Param.Printed numberText toNumber param.2)
    {hash : List Char} (went : hash = gotoRoute numberText routeName params ∨ hash = goto numberText routeName (some params)) :
    (∃ fields, onHashChange toNumber hash = .ok (routeName.toList, .object fields) ∧
        fields.Perm (params.map paramField)) ↔
      ∀ param ∈ params, survives (param.1.map UInt16.toNat) ∧ param.2.Survives := by
  have named := named_route known
  have route : hash = gotoRoute numberText routeName params := went.elim id id
  subst route
  constructor
  · rintro ⟨fields, returned, same⟩ param member
    obtain ⟨decoded, read, parsed⟩ := onHashChange_ok named returned
    obtain ⟨unchanged, text⟩ := decoded_same printed read parsed same
    rw [unchanged, parse_stringify distinct printed] at parsed
    cases parsed
    obtain ⟨key, strings⟩ := (survives_stringify printed).mp text param member
    exact ⟨key, survives_written same member strings⟩
  · intro kept
    have returns := returns_of_survives distinct printed kept
    obtain ⟨decoded, read, parsed⟩ := Option.bind_eq_some_iff.mp returns
    refine ⟨params.map paramField, ?_, List.Perm.refl _⟩
    rw [onHashChange_gotoRoute numberText toNumber named, read]
    dsimp only
    rw [parsed]

end

/-! A sample, with numbers as they are written for small naturals. -/

def naturalText (value : ℚ) : List Char := Nat.toDigits 10 value.num.toNat

def readNatural (text : List Char) : Option Js.Number :=
  some (.finite (text.foldl (fun value c => 10 * value + (c.toNat - 48)) 0 : Nat))

def units (text : String) : CodeUnits := codeUnits text.toList

def playerParams : Params :=
  [(units "playerId", .string (units "zoë & co, 50%2C \"b\"")), (units "roundIdx", .number (.finite 12))]

theorem routes_round_trip_sample :
    ∃ fields, onHashChange readNatural (gotoRoute naturalText "#game" playerParams) = .ok ("#game".toList, .object fields) ∧
      fields.Perm (playerParams.map paramField) := by
  have figures : naturalText 12 = ['1', '2'] := by decide +kernel
  refine (routes_round_trip (by decide) (by decide +kernel) (fun param member => ?_) (.inl rfl)).mpr fun param member => ?_
  · rcases List.mem_pair.mp member with rfl | rfl
    · trivial
    · refine ⟨?_, ?_, ?_⟩
      · rw [figures]
        exact List.cons_ne_nil _ _
      · rw [figures]
        exact List.all_eq_true.mp (by decide)
      · rw [figures]
        rfl
  · rcases List.mem_pair.mp member with rfl | rfl
    · exact ⟨by decide +kernel, show survives _ = true by decide +kernel⟩
    · exact ⟨by decide +kernel, trivial⟩

def typedParams (playerId : String) : Params := [(units "playerId", .string (units playerId))]

/-- A player who types a percent sign, or a question mark, never gets to the game. -/
theorem routes_fail_sample :
    onHashChange readNatural (gotoRoute naturalText "#game" (typedParams "100%")) = .error "URI malformed" ∧
      onHashChange readNatural (gotoRoute naturalText "#game" (typedParams "who?")) = .error "JSON.parse: SyntaxError" := by
  have named : Named "#game" := named_route (by decide)
  constructor
  · have malformed : decodeURI ((stringify naturalText (typedParams "100%")).takeWhile fun c => c ≠ '?') = none := by
      decide +kernel
    rw [onHashChange_gotoRoute naturalText readNatural named, malformed]
  · have cut : decodeURI ((stringify naturalText (typedParams "who?")).takeWhile fun c => c ≠ '?') =
        some "\x7b\"playerId\":\"who".toList := by
      decide +kernel
    have unread : parse readNatural "\x7b\"playerId\":\"who".toList = none := Option.isNone_iff_eq_none.mp (by decide +kernel)
    rw [onHashChange_gotoRoute naturalText readNatural named, cut]
    dsimp only
    rw [unread]

end DfStudy.RouteRoundTrip
