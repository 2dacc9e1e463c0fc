import KucoinPro.SignedRequests
import KucoinPro.TextParts

namespace KucoinPro.SignedTexts
open OrderEntryREST SignedRequests TextParts

-- What a signature is about.
structure Parts where
  timestamp : Nat
  method : String
  path : String
  query : String
  body : String
  deriving DecidableEq, Repr

-- They are signed with nothing in between.
def Parts.text (parts : Parts) : String :=
  toString parts.timestamp ++ parts.method ++ parts.path ++ parts.query ++ parts.body

def isPathChar (c : Char) : Bool := c != '?' && c != '\x7b'

-- A word of upper-case letters, a path, and a query or a body.
structure Shaped (parts : Parts) : Prop where
  word : parts.method ≠ "" ∧ ∀ c ∈ parts.method.toList, c.isUpper = true
  path : parts.path.toList.head? = some '/' ∧ ∀ c ∈ parts.path.toList, isPathChar c = true
  query : parts.query = "" ∨ parts.query.toList.head? = some '?'
  body : parts.body = "" ∨ parts.body.toList.head? = some '\x7b'
  one : parts.query = "" ∨ parts.body = ""

-- Query and body are read as one rest, whose first character tells them apart.
def alphabets : List (Char → Bool) := [Char.isDigit,Char.isUpper,isPathChar,fun _ => true]

def pieces (parts : Parts) : List (List Char) :=
  [(toString parts.timestamp).toList,parts.method.toList,parts.path.toList,(parts.query ++ parts.body).toList]

variable {parts others : Parts}

theorem text_pieces (parts : Parts) : parts.text.toList = (pieces parts).flatten := by
  simp only [Parts.text,pieces,String.toList_append,List.flatten_cons,List.flatten_nil,List.append_nil,List.append_assoc]

theorem digits_word (n : Nat) : ∀ c ∈ (toString n).toList, c.isDigit = true := by
  intro c member
  rw [Nat.toString_eq_repr,Nat.toList_repr] at member
  exact Nat.isDigit_of_mem_toDigits (by decide) (by decide) member

theorem upper_differs (upper : Char.isUpper c = true) : c.isDigit = false := by
  rw [Bool.eq_false_iff]
  intro digit
  have below : c.toNat ≤ 57 := (Char.isDigit_iff_toNat.mp digit).2
  have above : 65 ≤ c.toNat := by
    have range : 65 ≤ c.val ∧ c.val ≤ 90 := of_decide_eq_true upper
    exact UInt32.le_iff_toNat_le.mp range.1
  omega

theorem rest_head (shaped : Shaped parts) :
    (parts.query ++ parts.body).toList = [] ∨ (parts.query ++ parts.body).toList.head? = some '?' ∨
      (parts.query ++ parts.body).toList.head? = some '\x7b' := by
  rcases shaped.one with none | none
  · rw [none,String.empty_append]
    rcases shaped.body with empty | content
    · exact .inl (by rw [empty]; rfl)
    · exact .inr (.inr content)
  · rw [none,String.append_empty]
    rcases shaped.query with empty | content
    · exact .inl (by rw [empty]; rfl)
    · exact .inr (.inl content)

theorem pieces_fit (shaped : Shaped parts) : Fits alphabets (pieces parts) := by
  obtain ⟨named,upper⟩ := shaped.word
  obtain ⟨rooted,plain⟩ := shaped.path
  refine .cons (digits_word _) ?_ (.cons upper ?_ (.cons plain ?_ (.cons (fun _ _ => rfl) ?_ .nil)))
  · -- the timestamp ends where the method begins
    intro c first
    cases letters : parts.method.toList with
    | nil => exact absurd (String.toList_eq_nil_iff.mp letters) named
    | cons letter rest =>
        rw [letters,List.flatten_cons,List.cons_append,List.head?_cons,Option.some.injEq] at first
        exact first ▸ upper_differs (upper letter (by rw [letters]; exact List.mem_cons_self))
  · intro c first
    rw [List.flatten_cons,List.head?_append,rooted,Option.some_or,Option.some.injEq] at first
    exact first ▸ by decide
  · intro c first
    rw [List.flatten_cons,List.flatten_nil,List.append_nil] at first
    rcases rest_head shaped with empty | query | body
    · rw [empty] at first
      cases first
    · rw [query,Option.some.injEq] at first
      exact first ▸ by decide
    · rw [body,Option.some.injEq] at first
      exact first ▸ by decide
  · intro c first
    cases first

theorem rest_unique (shaped : Shaped parts) (shaped' : Shaped others)
    (same : parts.query ++ parts.body = others.query ++ others.body) : parts.query = others.query ∧ parts.body = others.body := by
  have apart : ∀ {query body : String}, (query = "" ∨ query.toList.head? = some '?') →
      (body = "" ∨ body.toList.head? = some '\x7b') → query = body → query = "" ∧ body = "" := by
    intro query body asked sent equal
    subst equal
    rcases asked with empty | query
    · exact ⟨empty,empty⟩
    · rcases sent with empty | body
      · exact ⟨empty,empty⟩
      · rw [query] at body
        exact absurd body (by decide)
  rcases shaped.one with none | none <;> rcases shaped'.one with none' | none' <;>
    simp only [none,none',String.empty_append,String.append_empty] at same ⊢
  · exact ⟨trivial,same⟩
  · obtain ⟨empty',empty⟩ := apart shaped'.query shaped.body same.symm
    exact ⟨empty'.symm,empty⟩
  · obtain ⟨empty,empty'⟩ := apart shaped.query shaped'.body same
    exact ⟨empty,empty'.symm⟩
  · exact ⟨same,trivial⟩

theorem text_unique (shaped : Shaped parts) (shaped' : Shaped others) (same : parts.text = others.text) : parts = others := by
  have flat : (pieces parts).flatten = (pieces others).flatten := by rw [← text_pieces,← text_pieces,same]
  have found := (pieces_fit shaped).unique (pieces_fit shaped') flat
  simp only [pieces,List.cons.injEq,String.toList_inj,and_true] at found
  obtain ⟨digits,method,path,rest⟩ := found
  obtain ⟨query,body⟩ := rest_unique shaped shaped' rest
  have timestamp : parts.timestamp = others.timestamp := by
    rw [Nat.toString_eq_repr,Nat.toString_eq_repr] at digits
    have digits := congrArg String.toList digits
    rw [Nat.toList_repr,Nat.toList_repr] at digits
    rw [← Nat.ofDigitChars_ten_toDigits (n := parts.timestamp),digits,Nat.ofDigitChars_ten_toDigits]
  cases parts
  cases others
  simp only [Parts.mk.injEq]
  exact ⟨timestamp,method,path,query,body⟩

-- The requests of the gateway.

def partsOf (timestamp : Nat) (request : Web.Request) : Parts :=
  ⟨timestamp,request.method.text,request.path,request.query,request.body⟩

variable {config : Config} {path : String}

theorem method_word (method : Web.Method) : method.text ≠ "" ∧ ∀ c ∈ method.text.toList, c.isUpper = true := by
  rw [← List.all_eq_true]
  cases method <;> decide

-- The paths are known, so this is computed.
def isRooted (path : String) : Bool := path.toList.head? == some '/' && path.toList.all isPathChar

theorem isRooted_path (rooted : isRooted path = true) :
    path.toList.head? = some '/' ∧ ∀ c ∈ path.toList, isPathChar c = true := by
  rw [isRooted,Bool.and_eq_true,beq_iff_eq,List.all_eq_true] at rooted
  exact rooted

theorem get_shaped (rooted : isRooted path = true) (asked : query.toList.head? = some '?') (timestamp : Nat)
    (t : TraceInfo) (quality : Web.QualityOfService) : Shaped (partsOf timestamp (getRequest config t path query quality)) where
  word := method_word .get
  path := isRooted_path rooted
  query := .inr asked
  body := .inl rfl
  one := .inr rfl

theorem post_shaped (rooted : isRooted path = true) (sent : body = "" ∨ body.toList.head? = some '\x7b')
    (timestamp : Nat) (t : TraceInfo) (contentType : Web.ContentType) :
    Shaped (partsOf timestamp (postRequest config t path contentType body)) where
  word := method_word .post
  path := isRooted_path rooted
  query := .inl rfl
  body := sent
  one := .inl rfl

theorem object_opens (members : List (String × JsonText.Value)) :
    (JsonText.Value.object members).text = "" ∨ (JsonText.Value.object members).text.toList.head? = some '\x7b' :=
  .inr (by simp [JsonText.Value.text,JsonText.render])

theorem append_opens {front back : String} (opens : front.toList.head? = some c) : (front ++ back).toList.head? = some c := by
  rw [String.toList_append,List.head?_append,opens,Option.some_or]

theorem getOrderQuery_opens (clientOrderId externalOrderId symbol : String) :
    (getOrderQuery clientOrderId externalOrderId symbol).toList.head? = some '?' :=
  append_opens (append_opens (by decide))

theorem built_shaped (builder : Builder) (built : Built config builder request) (timestamp : Nat) :
    Shaped (partsOf timestamp request) := by
  cases builder with
  | getPrivateToken t sequence =>
      obtain rfl := built
      exact post_shaped rfl (.inl rfl) timestamp t _
  | getAccount t | getPosition t | getOrders t | getExecution t =>
      obtain rfl := built
      exact get_shaped rfl (by decide) timestamp t _
  | getOrder t =>
      obtain rfl := built
      exact get_shaped rfl (getOrderQuery_opens _ _ _) timestamp t _
  | getOrderBook t symbol =>
      obtain rfl := built
      exact get_shaped rfl (append_opens (append_opens (by decide))) timestamp t _
  | createOrder | cancelOrder =>
      obtain rfl := built
      exact post_shaped rfl (object_opens _) timestamp _ _
  | cancelAllOrders =>
      obtain ⟨symbol,rfl⟩ := built
      exact post_shaped rfl (object_opens _) timestamp _ _

-- What create_headers signs is the text of its arguments, no two requests of these
-- shapes have the same text, and all requests of the gateway are of these shapes.
theorem signed_texts_are_distinct :
    (∀ (crypto : Crypto) (method : Web.Method) (path query body : String) (timestamp : Nat),
      crypto.createHeaders method path query body timestamp = headerText [("KC-API-KEY",crypto.key),
        ("KC-API-SIGN",crypto.sign (Parts.text ⟨timestamp,method.text,path,query,body⟩)),
        ("KC-API-TIMESTAMP",toString timestamp),("KC-API-PASSPHRASE",crypto.signedPassphrase),
        ("KC-API-KEY-VERSION","3")]) ∧
    (∀ parts others : Parts, Shaped parts → Shaped others → parts.text = others.text → parts = others) ∧
    ∀ (E D R : Type) (config : Config) (builder : Builder) (w : World E D R),
      Submits (fun request => ∀ timestamp, Shaped (partsOf timestamp request)) w (builder.run config w) := by
  refine ⟨createHeaders_text,fun _ _ => text_unique,?_⟩
  intro E D R config builder w
  exact (run_built config builder w).implies fun _ => built_shaped builder

section closed
open Smallest

-- A signature of this text is one of this request.
theorem order_detail_is_recognised :
    partsOf 0 (getRequest (setup true) t API.restPrivate.orderDetails (getOrderQuery "1" "" "XBTUSDTM") .immediate) =
      ⟨0,"GET","/api/ua/v2/unified/order/detail",
        "?accountMode=UNIFIED&tradeType=FUTURES&symbol=XBTUSDTM&clientOid=1",""⟩ := by
  refine signed_texts_are_distinct.2.1 _ _ ?_ ?_ ?_
  · exact get_shaped rfl (getOrderQuery_opens _ _ _) 0 t _
  · exact ⟨method_word .get,isRooted_path rfl,.inr (by decide),.inl rfl,.inr rfl⟩
  · decide

end closed
end KucoinPro.SignedTexts
