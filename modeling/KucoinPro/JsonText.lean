import KucoinPro.TextParts

namespace JsonText

-- JSON (RFC 8259) as it stands on the wire: a number and a string keep their raw
-- text, the members of an object their order.
inductive Value where
  | null
  | boolean (value : Bool)
  | number (raw : String)
  | string (raw : String)
  | array (items : List Value)
  | object (members : List (String × Value))

-- numbers

def isFraction (isRest : List Char → Bool) : List Char → Bool
  | '.' :: rest => !(rest.takeWhile Char.isDigit).isEmpty && isRest (rest.dropWhile Char.isDigit)
  | text => isRest text

def isWhole (isRest : List Char → Bool) (text : List Char) : Bool :=
  let whole := text.takeWhile Char.isDigit
  !whole.isEmpty && (whole == ['0'] || whole.head? != some '0') && isFraction isRest (text.dropWhile Char.isDigit)

def isSigned (isRest : List Char → Bool) : List Char → Bool
  | '-' :: rest => isWhole isRest rest
  | text => isWhole isRest text

def isExponent : List Char → Bool
  | [] => true
  | e :: '+' :: rest | e :: '-' :: rest | e :: rest => (e == 'e' || e == 'E') && !rest.isEmpty && rest.all Char.isDigit

-- A decimal numeral has no exponent.
def isDecimal (text : String) : Bool := isSigned List.isEmpty text.toList
def isNumber (text : String) : Bool := isSigned isExponent text.toList

def isNumberChar (c : Char) : Bool := c.isDigit || c == '-' || c == '+' || c == '.' || c == 'e' || c == 'E'

-- strings

def isEscape (c : Char) : Bool := c ∈ ['"','\\','/','b','f','n','r','t']

def isHex (c : Char) : Bool := c.isDigit || 'a' ≤ c && c ≤ 'f' || 'A' ≤ c && c ≤ 'F'

-- A character that a string may hold as it is.
def isPlain (c : Char) : Bool := c != '"' && c != '\\' && ' ' ≤ c

-- Behind the opening quote: the raw text, and what follows the closing one.
def scan : List Char → Option (List Char × List Char)
  | [] => none
  | '"' :: rest => some ([],rest)
  | '\\' :: 'u' :: a :: b :: c :: d :: rest =>
      if [a,b,c,d].all isHex then (scan rest).map fun (raw,after) => ('\\' :: 'u' :: a :: b :: c :: d :: raw,after) else none
  | '\\' :: c :: rest => if isEscape c then (scan rest).map fun (raw,after) => ('\\' :: c :: raw,after) else none
  | c :: rest => if isPlain c then (scan rest).map fun (raw,after) => (c :: raw,after) else none

-- values

def isSpace (c : Char) : Bool := c ∈ [' ','\t','\n','\r']

def skip (text : List Char) : List Char := text.dropWhile isSpace

def words : List (String × Value) := [("null",.null),("true",.boolean true),("false",.boolean false)]

def parseWord (text : List Char) : Option (Value × List Char) :=
  (words.find? fun word => word.1.toList.isPrefixOf text).map fun word => (word.2,text.drop word.1.length)

def parseNumber (text : List Char) : Option (Value × List Char) :=
  let raw := String.ofList (text.takeWhile isNumberChar)
  if isNumber raw then some (.number raw,text.dropWhile isNumberChar) else none

mutual

def parseValue : Nat → List Char → Option (Value × List Char)
  | 0,_ => none
  | fuel + 1,text =>
    match skip text with
    | [] => none
    | c :: rest =>
      if c = '"' then (scan rest).map fun (raw,after) => (.string (String.ofList raw),after)
      else if c = '[' then
        match skip rest with
        | ']' :: after => some (.array [],after)
        | other => (parseItems fuel other).map fun (items,after) => (.array items,after)
      else if c = '\x7b' then
        match skip rest with
        | '\x7d' :: after => some (.object [],after)
        | other => (parseMembers fuel other).map fun (members,after) => (.object members,after)
      else if isNumberChar c then parseNumber (c :: rest)
      else parseWord (c :: rest)

def parseItems : Nat → List Char → Option (List Value × List Char)
  | 0,_ => none
  | fuel + 1,text => (parseValue fuel text).bind fun (item,after) =>
    match skip after with
    | ',' :: rest => (parseItems fuel rest).map fun (items,after) => (item :: items,after)
    | ']' :: rest => some ([item],rest)
    | _ => none

def parseMembers : Nat → List Char → Option (List (String × Value) × List Char)
  | 0,_ => none
  | fuel + 1,text =>
    match skip text with
    | '"' :: rest => (scan rest).bind fun (key,after) =>
      match skip after with
      | ':' :: rest => (parseValue fuel rest).bind fun (value,after) =>
        match skip after with
        | ',' :: rest => (parseMembers fuel rest).map fun (members,after) => ((String.ofList key,value) :: members,after)
        | '\x7d' :: rest => some ([(String.ofList key,value)],rest)
        | _ => none
      | _ => none
    | _ => none

end

-- A text that is one value, with nothing else around it but white space.
def parse (text : String) : Option Value :=
  (parseValue (text.length + 1) text.toList).bind fun (value,after) => if skip after = [] then some value else none

-- The text of a value without white space.

def quote (raw : String) : List Char := '"' :: (raw.toList ++ ['"'])

mutual

def render : Value → List Char
  | .null => "null".toList
  | .boolean true => "true".toList
  | .boolean false => "false".toList
  | .number raw => raw.toList
  | .string raw => quote raw
  | .array items => '[' :: (renderItems items ++ [']'])
  | .object members => '\x7b' :: (renderMembers members ++ ['\x7d'])

def renderItems : List Value → List Char
  | [] => []
  | [item] => render item
  | item :: rest => render item ++ ',' :: renderItems rest

def renderMembers : List (String × Value) → List Char
  | [] => []
  | [(key,value)] => quote key ++ ':' :: render value
  | (key,value) :: rest => quote key ++ ':' :: (render value ++ ',' :: renderMembers rest)

end

def Value.text (value : Value) : String := String.ofList (render value)

-- No string has anything in it that must be escaped, and numbers are numbers.
def PlainText (text : String) : Prop := ∀ c ∈ text.toList, isPlain c = true

instance (text : String) : Decidable (PlainText text) := decidable_of_iff (text.toList.all isPlain = true) List.all_eq_true

inductive Plain : Value → Prop where
  | null : Plain .null
  | boolean (value : Bool) : Plain (.boolean value)
  | number : isNumber raw = true → Plain (.number raw)
  | string : PlainText raw → Plain (.string raw)
  | array : (∀ item ∈ items, Plain item) → Plain (.array items)
  | object : (∀ member ∈ members, PlainText member.1) → (∀ member ∈ members, Plain member.2) → Plain (.object members)


@[simp] theorem skip_cons (solid : isSpace c = false) : skip (c :: rest) = c :: rest := by
  simp [skip,solid]

theorem plain_differs (plain : isPlain c = true) : c ≠ '"' ∧ c ≠ '\\' := by
  simp only [isPlain,Bool.and_eq_true,bne_iff_ne] at plain
  exact plain.1

theorem scan_plain (plain : ∀ c ∈ raw, isPlain c = true) (rest : List Char) : scan (raw ++ '"' :: rest) = some (raw,rest) := by
  induction raw with
  | nil => simp [scan]
  | cons c raw ih =>
      have here := plain c List.mem_cons_self
      obtain ⟨_,escape⟩ := plain_differs here
      rw [List.cons_append,scan.eq_def]
      simp [escape,here,ih fun x inside => plain x (List.mem_cons_of_mem _ inside)]

-- What follows a value never makes a number any longer.
def Stops (rest : List Char) : Prop := ∀ c ∈ rest.head?, isNumberChar c = false

theorem stops_cons (apart : isNumberChar c = false) : Stops (c :: rest) := by
  simpa [Stops] using apart

theorem takeWhile_stops (all : ∀ c ∈ raw, isNumberChar c = true) (stops : Stops rest) :
    (raw ++ rest).takeWhile isNumberChar = raw ∧ (raw ++ rest).dropWhile isNumberChar = rest :=
  TextParts.takeWhile_stops all stops

theorem split_digits {text : List Char} (others : ∀ c ∈ text.dropWhile Char.isDigit, isNumberChar c = true) :
    ∀ c ∈ text, isNumberChar c = true := by
  intro c inside
  rw [← List.takeWhile_append_dropWhile (p := Char.isDigit) (l := text),List.mem_append] at inside
  rcases inside with digit | other
  · simp [isNumberChar,List.mem_takeWhile_imp digit]
  · exact others c other

section numerals
variable {isRest : List Char → Bool} (each : ∀ rest, isRest rest = true → ∀ c ∈ rest, isNumberChar c = true)
include each

theorem isFraction_chars (known : isFraction isRest text = true) : ∀ c ∈ text, isNumberChar c = true := by
  unfold isFraction at known
  split at known
  · rw [Bool.and_eq_true] at known
    exact List.forall_mem_cons.mpr ⟨by decide,split_digits (each _ known.2)⟩
  · exact each _ known

theorem isWhole_chars (known : isWhole isRest text = true) : ∀ c ∈ text, isNumberChar c = true := by
  simp only [isWhole,Bool.and_eq_true] at known
  exact split_digits (isFraction_chars each known.2)

theorem isSigned_chars (known : isSigned isRest text = true) : ∀ c ∈ text, isNumberChar c = true := by
  unfold isSigned at known
  split at known
  · exact List.forall_mem_cons.mpr ⟨by decide,isWhole_chars each known⟩
  · exact isWhole_chars each known

end numerals

theorem isExponent_chars (rest : List Char) (known : isExponent rest = true) : ∀ c ∈ rest, isNumberChar c = true := by
  have marked : ∀ {e : Char} {digits : List Char}, ((e == 'e' || e == 'E') && !digits.isEmpty && digits.all Char.isDigit) = true →
      isNumberChar e = true ∧ ∀ c ∈ digits, isNumberChar c = true := by
    intro e digits known
    simp only [Bool.and_eq_true,Bool.or_eq_true,List.all_eq_true] at known
    refine ⟨?_,fun c inside => by simp [isNumberChar,known.2 c inside]⟩
    rcases known.1.1 with lower | upper
    · simp [isNumberChar,lower]
    · simp [isNumberChar,upper]
  unfold isExponent at known
  split at known
  · nofun
  · obtain ⟨e,digits⟩ := marked known
    exact List.forall_mem_cons.mpr ⟨e,List.forall_mem_cons.mpr ⟨by decide,digits⟩⟩
  · obtain ⟨e,digits⟩ := marked known
    exact List.forall_mem_cons.mpr ⟨e,List.forall_mem_cons.mpr ⟨by decide,digits⟩⟩
  · obtain ⟨e,digits⟩ := marked known
    exact List.forall_mem_cons.mpr ⟨e,digits⟩

theorem number_chars (number : isNumber raw = true) : ∀ c ∈ raw.toList, isNumberChar c = true :=
  isSigned_chars isExponent_chars number

theorem isSigned_nonempty (known : isSigned isRest text = true) : text ≠ [] := by
  rintro rfl
  simp [isSigned,isWhole] at known

-- A character of a number opens nothing else.
theorem number_opens (number : isNumberChar c = true) : isSpace c = false ∧ c ≠ '"' ∧ c ≠ '[' ∧ c ≠ '\x7b' := by
  refine ⟨?_,?_,?_,?_⟩
  · rw [Bool.eq_false_iff]
    intro space
    simp only [isSpace,decide_eq_true_eq,List.mem_cons,List.not_mem_nil,or_false] at space
    rcases space with rfl | rfl | rfl | rfl <;> revert number <;> decide
  all_goals
    rintro rfl
    revert number
    decide

theorem digit_plain (digit : c.isDigit = true) : isPlain c = true := by
  have low : '0' ≤ c := by
    simp only [Char.isDigit,Bool.and_eq_true,decide_eq_true_eq] at digit
    exact digit.1
  have high : ' ' ≤ c := Char.le_trans (by decide) low
  have quote : c ≠ '"' := by
    rintro rfl
    revert low
    decide
  have escape : c ≠ '\\' := by
    rintro rfl
    revert digit
    decide
  simp [isPlain,high,quote,escape]

theorem number_plain (number : isNumberChar c = true) : isPlain c = true := by
  simp only [isNumberChar,Bool.or_eq_true,beq_iff_eq] at number
  rcases number with ((((digit | rfl) | rfl) | rfl) | rfl) | rfl
  · exact digit_plain digit
  all_goals decide

-- A decimal numeral needs no escape.
theorem decimal_plain (decimal : isDecimal text = true) : PlainText text := by
  intro c inside
  exact number_plain (isSigned_chars (fun rest empty => by simp [List.isEmpty_iff.mp empty]) decimal c inside)

-- A rendered value begins with a character of its own.
theorem render_opens (plain : Plain value) : ∃ c rest, render value = c :: rest ∧ isSpace c = false ∧ c ≠ ']' := by
  cases plain with
  | null => exact ⟨'n',_,rfl,by decide,by decide⟩
  | boolean value => cases value <;> exact ⟨_,_,rfl,by decide,by decide⟩
  | @number raw number =>
      have chars := number_chars number
      cases text : raw.toList with
      | nil => exact absurd text (isSigned_nonempty number)
      | cons c rest =>
          have first : isNumberChar c = true := chars c (by rw [text]; exact List.mem_cons_self)
          refine ⟨c,rest,by rw [render,text],(number_opens first).1,?_⟩
          rintro rfl
          revert first
          decide
  | string => exact ⟨'"',_,rfl,by decide,by decide⟩
  | array => exact ⟨'[',_,rfl,by decide,by decide⟩
  | object => exact ⟨'\x7b',_,rfl,by decide,by decide⟩

theorem parse_word (value : Value) (word : String) (named : (word,value) ∈ words) (rest : List Char) :
    parseValue (fuel + 1) (word.toList ++ rest) = some (value,rest) := by
  simp only [words,List.mem_cons,Prod.mk.injEq,List.not_mem_nil,or_false] at named
  rcases named with ⟨rfl,rfl⟩ | ⟨rfl,rfl⟩ | ⟨rfl,rfl⟩ <;> rfl

theorem parse_number (number : isNumber raw = true) (stops : Stops rest) :
    parseValue (fuel + 1) (raw.toList ++ rest) = some (.number raw,rest) := by
  have chars := number_chars number
  obtain ⟨taken,dropped⟩ := takeWhile_stops chars stops
  cases text : raw.toList with
  | nil => exact absurd text (isSigned_nonempty number)
  | cons c others =>
      have first : isNumberChar c = true := chars c (by rw [text]; exact List.mem_cons_self)
      obtain ⟨solid,quote,bracket,brace⟩ := number_opens first
      rw [text] at taken dropped
      rw [List.cons_append] at taken dropped ⊢
      rw [parseValue,skip_cons solid]
      simp only [if_neg quote,if_neg bracket,if_neg brace,first,if_true,parseNumber,taken,dropped]
      rw [← text,String.ofList_toList,if_pos number]

theorem parse_string (plain : PlainText raw) (rest : List Char) :
    parseValue (fuel + 1) (quote raw ++ rest) = some (.string raw,rest) := by
  have scanned := scan_plain plain rest
  simp only [quote,List.cons_append,List.append_assoc,List.nil_append]
  rw [parseValue,skip_cons (by decide)]
  simp [scanned]

-- What the three parsers owe to what was rendered, as far as the fuel goes.
def ReadsValues (fuel : Nat) : Prop := ∀ value rest, Plain value → Stops rest → (render value).length < fuel →
  parseValue fuel (render value ++ rest) = some (value,rest)

def ReadsItems (fuel : Nat) : Prop := ∀ item items rest, (∀ x ∈ item :: items, Plain x) →
  (renderItems (item :: items)).length + 1 < fuel →
  parseItems fuel (renderItems (item :: items) ++ ']' :: rest) = some (item :: items,rest)

def ReadsMembers (fuel : Nat) : Prop := ∀ member members rest, (∀ x ∈ member :: members, PlainText x.1) →
  (∀ x ∈ member :: members, Plain x.2) → (renderMembers (member :: members)).length < fuel →
  parseMembers fuel (renderMembers (member :: members) ++ '\x7d' :: rest) = some (member :: members,rest)

theorem renderItems_cons (item next : Value) (rest : List Value) :
    renderItems (item :: next :: rest) = render item ++ ',' :: renderItems (next :: rest) := by rw [renderItems]; nofun

theorem renderMembers_cons (key : String) (value : Value) (next : String × Value) (rest : List (String × Value)) :
    renderMembers ((key,value) :: next :: rest) = quote key ++ ':' :: (render value ++ ',' :: renderMembers (next :: rest)) := by
  rw [renderMembers]
  nofun

theorem renderItems_opens (plain : Plain item) (rest : List Value) :
    ∃ c text, renderItems (item :: rest) = c :: text ∧ isSpace c = false ∧ c ≠ ']' := by
  obtain ⟨c,text,opens,solid,more⟩ := render_opens plain
  cases rest with
  | nil => exact ⟨c,text,by rw [renderItems,opens],solid,more⟩
  | cons next rest => exact ⟨c,_,by rw [renderItems_cons,opens,List.cons_append],solid,more⟩

theorem renderMembers_opens (member : String × Value) (rest : List (String × Value)) :
    ∃ text, renderMembers (member :: rest) = '"' :: text := by
  obtain ⟨key,value⟩ := member
  cases rest with
  | nil => exact ⟨_,by rw [renderMembers,quote,List.cons_append]⟩
  | cons next rest => exact ⟨_,by rw [renderMembers_cons,quote,List.cons_append]⟩

theorem parse_array (reads : ReadsItems fuel) (plain : ∀ item ∈ items, Plain item)
    (enough : (render (.array items)).length < fuel + 1) (rest : List Char) :
    parseValue (fuel + 1) (render (.array items) ++ rest) = some (.array items,rest) := by
  cases items with
  | nil => rfl
  | cons item items =>
      obtain ⟨c,text,opens,solid,more⟩ := renderItems_opens (plain item List.mem_cons_self) items
      have parsed := reads item items rest plain (by simp only [render,List.length_cons,List.length_append] at enough; omega)
      simp only [render,List.cons_append,List.append_assoc,List.nil_append]
      rw [parseValue,skip_cons (by decide)]
      rw [opens,List.cons_append] at parsed ⊢
      simp [skip_cons solid,more,parsed]

theorem parse_object (reads : ReadsMembers fuel) (names : ∀ member ∈ members, PlainText member.1)
    (plain : ∀ member ∈ members, Plain member.2) (enough : (render (.object members)).length < fuel + 1) (rest : List Char) :
    parseValue (fuel + 1) (render (.object members) ++ rest) = some (.object members,rest) := by
  cases members with
  | nil => rfl
  | cons member members =>
      obtain ⟨text,opens⟩ := renderMembers_opens member members
      have parsed := reads member members rest names plain
        (by simp only [render,List.length_cons,List.length_append] at enough; omega)
      simp only [render,List.cons_append,List.append_assoc,List.nil_append]
      rw [parseValue,skip_cons (by decide)]
      have solid : isSpace '"' = false := by decide
      rw [opens,List.cons_append] at parsed ⊢
      simp [skip_cons solid,parsed]

theorem parse_items (values : ReadsValues fuel) (items : ReadsItems fuel) : ReadsItems (fuel + 1) := by
  intro item others rest plain enough
  have here := plain item List.mem_cons_self
  cases others with
  | nil =>
      have parsed := values item (']' :: rest) here (stops_cons (by decide)) (by simp only [renderItems] at enough; omega)
      rw [renderItems,parseItems,parsed]
      simp [skip_cons (show isSpace ']' = false by decide)]
  | cons next others =>
      rw [renderItems_cons,List.length_append,List.length_cons] at enough
      have parsed := values item (',' :: (renderItems (next :: others) ++ ']' :: rest)) here (stops_cons (by decide)) (by omega)
      have later := items next others rest (fun x inside => plain x (List.mem_cons_of_mem _ inside)) (by omega)
      rw [renderItems_cons,List.append_assoc,List.cons_append,parseItems,parsed]
      simp [skip_cons (show isSpace ',' = false by decide),later]

theorem parse_members (values : ReadsValues fuel) (members : ReadsMembers fuel) : ReadsMembers (fuel + 1) := by
  intro member others rest names plain enough
  obtain ⟨key,value⟩ := member
  have name : PlainText key := names _ List.mem_cons_self
  have here : Plain value := plain _ List.mem_cons_self
  have solid : isSpace '"' = false := by decide
  have colon : isSpace ':' = false := by decide
  cases others with
  | nil =>
      rw [renderMembers,List.length_append,List.length_cons] at enough
      have parsed := values value ('\x7d' :: rest) here (stops_cons (by decide)) (by omega)
      have scanned := scan_plain name (':' :: (render value ++ '\x7d' :: rest))
      rw [renderMembers,quote,parseMembers]
      simp only [List.cons_append,List.append_assoc,List.nil_append]
      simp [skip_cons solid,scanned,skip_cons colon,parsed,skip_cons (show isSpace '\x7d' = false by decide)]
  | cons next others =>
      rw [renderMembers_cons,List.length_append,List.length_cons,List.length_append,List.length_cons] at enough
      have parsed := values value (',' :: (renderMembers (next :: others) ++ '\x7d' :: rest)) here (stops_cons (by decide)) (by omega)
      have later := members next others rest (fun x inside => names x (List.mem_cons_of_mem _ inside))
        (fun x inside => plain x (List.mem_cons_of_mem _ inside)) (by omega)
      have scanned := scan_plain name (':' :: (render value ++ ',' :: (renderMembers (next :: others) ++ '\x7d' :: rest)))
      rw [renderMembers_cons,quote,parseMembers]
      simp only [List.cons_append,List.append_assoc,List.nil_append]
      simp [skip_cons solid,scanned,skip_cons colon,parsed,skip_cons (show isSpace ',' = false by decide),later]

-- Each of the three by way of the others, on less text.
theorem parse_rendered (fuel : Nat) : ReadsValues fuel ∧ ReadsItems fuel ∧ ReadsMembers fuel := by
  induction fuel with
  | zero => exact ⟨nofun,nofun,nofun⟩
  | succ fuel ih =>
      obtain ⟨values,items,members⟩ := ih
      refine ⟨?_,parse_items values items,parse_members values members⟩
      intro value rest plain stops enough
      cases plain with
      | null => exact parse_word _ "null" (by simp [words]) rest
      | boolean value => cases value <;> exact parse_word _ _ (by simp [words]) rest
      | number number => exact parse_number number stops
      | string plain => exact parse_string plain rest
      | array each => exact parse_array items each enough rest
      | object names each => exact parse_object members names each enough rest

-- What is rendered is read back.
theorem parse_text (plain : Plain value) : parse value.text = some value := by
  have chars : value.text.toList = render value := String.toList_ofList
  have parsed := (parse_rendered (value.text.length + 1)).1 value [] plain nofun (by simp [Value.text])
  rw [List.append_nil] at parsed
  rw [parse,chars,parsed]
  rfl

end JsonText
