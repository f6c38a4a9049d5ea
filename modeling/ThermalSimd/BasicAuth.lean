import Mathlib.Data.List.AList
import Mathlib.Data.List.Infix
import ThermalSimd.Credentials

/-!
# Requests to the exporter

The exporter reads a request until its blank line, parses it, and admits it if its last
authorization header carries the configured credentials.
-/

namespace ThermalSimd
namespace Http

open Base64

/-- The lines successive calls of `getline` give. -/
def lines : Bytes → List Bytes
  | [] => []
  | byte :: rest =>
    if byte = 10 then [] :: lines rest
    else
      match lines rest with
      | [] => [[byte]]
      | line :: more => (byte :: line) :: more

def popCr (line : Bytes) : Bytes := if line.getLast? = some 13 then line.dropLast else line

def words : Bytes → List Bytes
  | [] => []
  | byte :: rest =>
    if isSpace byte then words rest
    else
      match rest with
      | [] => [[byte]]
      | next :: _ =>
        if isSpace next then [byte] :: words rest
        else
          match words rest with
          | [] => [[byte]]
          | word :: more => (byte :: word) :: more

def blankLine : Bytes := [13, 10, 13, 10]

/-- `HttpRequest`. -/
structure HttpRequest where
  method : Bytes
  path : Bytes
  headers : AList fun _ : Bytes => Bytes

def headerOf (line : Bytes) : Option (Bytes × Bytes) :=
  if 58 ∈ line then
    let key := line.takeWhile (· ≠ 58)
    let value := (line.dropWhile (· ≠ 58)).tail
    some (key.map toLower, value.dropWhile isSpace)
  else none

def addHeader (headers : AList fun _ : Bytes => Bytes) (line : Bytes) :
    AList fun _ : Bytes => Bytes :=
  match headerOf line with
  | none => headers
  | some (key, value) => headers.insert key value

/-- The header lines of a request: all up to the first empty one. -/
def headerLines (rest : List Bytes) : List Bytes :=
  (rest.map popCr).takeWhile (· ≠ [])

def requestLine (first : Bytes) : Option (Bytes × Bytes) :=
  match words (popCr first) with
  | method :: path :: version :: _ =>
    if ascii ['H', 'T', 'T', 'P', '/'] <+: version then some (method, path) else none
  | _ => none

/-- `parse_request`. -/
def parseRequest (buffer : Bytes) : Option HttpRequest :=
  if blankLine <:+: buffer then
    match lines buffer with
    | [] => none
    | first :: rest =>
      match requestLine first with
      | none => none
      | some (method, path) => some ⟨method, path, (headerLines rest).foldl addHeader ∅⟩
  else none

def kMaxRequestBytes : ℕ := 8192

/-- The loop of `read_request_payload`; a read that fails delivers nothing. -/
def readLoop (buffer : Bytes) : List Bytes → Bytes
  | [] => buffer
  | received :: more =>
    if ¬ blankLine <:+: buffer ∧ buffer.length ≤ kMaxRequestBytes then
      if received = [] then buffer else readLoop (buffer ++ received) more
    else buffer

/-- `read_request_payload`. -/
def readRequestPayload (received : List Bytes) : Bytes :=
  let buffer := readLoop [] received
  if kMaxRequestBytes < buffer.length then [] else buffer

/-- The credentials of an exporter, from C strings, which hold no zero bytes. -/
structure BasicAuth where
  username : Bytes
  password : Bytes
  username_clean : (0 : UInt8) ∉ username
  password_clean : (0 : UInt8) ∉ password

namespace BasicAuth

def expected (auth : BasicAuth) : Bytes := auth.username ++ [58] ++ auth.password

theorem expected_clean (auth : BasicAuth) : (0 : UInt8) ∉ auth.expected := by
  unfold expected
  rw [List.mem_append, List.mem_append]
  rintro ((user | colon) | password)
  · exact auth.username_clean user
  · exact absurd colon (by decide)
  · exact auth.password_clean password

end BasicAuth

/-- What the answers depend on. -/
structure Server where
  /-- `config_.auth`, if it is enabled. -/
  auth : Option BasicAuth
  healthOk : Bool
  readinessOk : Bool
  prometheus : Bytes
  healthJson : Bytes

def authorization : Bytes :=
  ascii ['a', 'u', 't', 'h', 'o', 'r', 'i', 'z', 'a', 't', 'i', 'o', 'n']

def basic : Bytes := ascii ['B', 'a', 's', 'i', 'c', ' ']

/-- `authorized`. -/
def authorized (auth : Option BasicAuth) (request : HttpRequest) : Bool :=
  match auth with
  | none => true
  | some auth =>
    match request.headers.lookup authorization with
    | none => false
    | some value =>
      if value.length ≤ basic.length ∨ value.take basic.length ≠ basic then false
      else constantTimeEqual (base64Decode (value.drop basic.length)) auth.expected

/-- The status line. -/
inductive Status
  | ok
  | badRequest
  | unauthorized
  | notFound
  | methodNotAllowed
  | requestTimeout
  | serviceUnavailable
  deriving DecidableEq

/-- An answer of the exporter. -/
structure Response where
  status : Status
  contentType : String
  body : Bytes
  headers : List (String × String)

def plainResponse (status : Status) (body : Bytes) (headers : List (String × String)) : Response :=
  ⟨status, "text/plain", body, headers⟩

/-- `handle_client`, by what it is sent and the reply it sends. -/
def handleClient (server : Server) (received : List Bytes) : Response :=
  let payload := readRequestPayload received
  if payload = [] ∨ ¬ blankLine <:+: payload then
    plainResponse .requestTimeout (ascii "request timeout or too large\n".toList) []
  else
    match parseRequest payload with
    | none => plainResponse .badRequest (ascii "bad request\n".toList) []
    | some request =>
      if request.method ≠ ascii ['G', 'E', 'T'] then
        plainResponse .methodNotAllowed (ascii "method not allowed\n".toList) []
      else if !authorized server.auth request then
        plainResponse .unauthorized (ascii "unauthorized\n".toList)
          [("WWW-Authenticate", "Basic realm=\"metrics\"")]
      else if request.path = ascii ['/', 'm', 'e', 't', 'r', 'i', 'c', 's'] then
        ⟨.ok, "text/plain; version=0.0.4", server.prometheus, []⟩
      else if request.path = ascii ['/', 'h', 'e', 'a', 'l', 't', 'h', 'z'] then
        ⟨if server.healthOk then .ok else .serviceUnavailable, "application/json",
          server.healthJson, []⟩
      else if request.path = ascii ['/', 'r', 'e', 'a', 'd', 'y', 'z'] then
        ⟨if server.readinessOk then .ok else .serviceUnavailable, "application/json",
          server.healthJson, []⟩
      else plainResponse .notFound (ascii "not found\n".toList) []

theorem lines_ne_nil {text : Bytes} (ne : text ≠ []) : lines text ≠ [] := by
  cases text with
  | nil => exact absurd rfl ne
  | cons =>
    unfold lines
    split
    · exact List.cons_ne_nil _ _
    · split <;> exact List.cons_ne_nil _ _

theorem lines_append_newline (before after : Bytes) :
    lines (before ++ 10 :: after) = lines (before ++ [10]) ++ lines after := by
  induction before with
  | nil => rfl
  | cons byte before ih =>
    rw [List.cons_append, List.cons_append, lines, lines]
    by_cases newline : byte = 10
    · rw [if_pos newline, if_pos newline, ih, List.cons_append]
    · rw [if_neg newline, if_neg newline, ih]
      obtain ⟨_, _, earlier⟩ := List.exists_cons_of_ne_nil
        (lines_ne_nil (List.append_ne_nil_of_right_ne_nil before (List.cons_ne_nil 10 [])))
      rw [earlier]
      rfl

theorem lines_blankLine (before after) :
    lines (before ++ blankLine ++ after) = lines (before ++ [13, 10]) ++ [13] :: lines after := by
  have split : before ++ blankLine ++ after = (before ++ [13]) ++ 10 :: (13 :: 10 :: after) := by
    simp [blankLine]
  have rest : lines (13 :: 10 :: after) = [13] :: lines after := rfl
  rw [split, lines_append_newline, rest, List.append_assoc]
  rfl

theorem headerLines_stop (before after : List Bytes) :
    headerLines (before ++ [13] :: after) = headerLines before := by
  have stop : popCr [13] = [] := rfl
  unfold headerLines
  rw [List.map_append, List.map_cons, stop]
  induction before.map popCr with
  | nil => rfl
  | cons _ _ ih =>
    rw [List.cons_append, List.takeWhile_cons, List.takeWhile_cons, ih]

theorem parseRequest_append (before after) :
    parseRequest (before ++ blankLine ++ after) = parseRequest (before ++ blankLine) := by
  have left : blankLine <:+: before ++ blankLine ++ after := List.infix_append ..
  have right : blankLine <:+: before ++ blankLine := List.infix_append_right
  have whole := lines_blankLine before after
  have alone := lines_blankLine before []
  rw [List.append_nil] at alone
  obtain ⟨_, _, ne⟩ := List.exists_cons_of_ne_nil
    (lines_ne_nil (List.append_ne_nil_of_right_ne_nil before (List.cons_ne_nil 13 [10])))
  rw [ne, List.cons_append] at whole alone
  unfold parseRequest
  rw [if_pos left, if_pos right, whole, alone]
  dsimp only
  rw [headerLines_stop, headerLines_stop]

theorem parseRequest_of_isPrefix {payload request : Bytes} (start : payload <+: request)
    (complete : blankLine <:+: payload) : parseRequest payload = parseRequest request := by
  obtain ⟨_, rfl⟩ := start
  obtain ⟨before, _, rfl⟩ := complete
  rw [parseRequest_append, List.append_assoc (before ++ blankLine), parseRequest_append]

theorem readLoop_spec {buffer : Bytes} {received : List Bytes}
    (delivered : ∀ chunk ∈ received, chunk ≠ [])
    (fits : (buffer ++ received.flatten).length ≤ kMaxRequestBytes) :
    readLoop buffer received <+: buffer ++ received.flatten ∧
      (blankLine <:+: buffer ++ received.flatten → blankLine <:+: readLoop buffer received) := by
  induction received generalizing buffer with
  | nil =>
    rw [List.flatten_nil, List.append_nil]
    exact ⟨List.prefix_refl _, id⟩
  | cons chunk received ih =>
    obtain ⟨ne, delivered⟩ := List.forall_mem_cons.mp delivered
    rw [List.flatten_cons, ← List.append_assoc] at fits ⊢
    have short : buffer.length ≤ kMaxRequestBytes := by
      rw [List.length_append, List.length_append] at fits
      omega
    unfold readLoop
    by_cases complete : blankLine <:+: buffer
    · rw [if_neg fun more => more.1 complete]
      exact ⟨(List.prefix_append ..).trans (List.prefix_append ..), fun _ => complete⟩
    · rw [if_pos ⟨complete, short⟩, if_neg ne]
      exact ih delivered fits

/-- A line that spells a header: a name in any case, the first colon, whitespace and a value. -/
def IsHeader (line name value : Bytes) : Prop :=
  ∃ rawName rawValue, line = rawName ++ 58 :: rawValue ∧ 58 ∉ rawName ∧
    rawName.map toLower = name ∧ rawValue.dropWhile isSpace = value

def LastHeader (headers : List Bytes) (name value : Bytes) : Prop :=
  ∃ before line after, headers = before ++ line :: after ∧ IsHeader line name value ∧
    ∀ other ∈ after, ∀ otherValue, ¬ IsHeader other name otherValue

theorem headerOf_append {rawName} (clean : 58 ∉ rawName) (rawValue : Bytes) :
    headerOf (rawName ++ 58 :: rawValue) =
      some (rawName.map toLower, rawValue.dropWhile isSpace) := by
  have before : ∀ byte ∈ rawName, decide (byte ≠ 58) = true :=
    fun byte mem => decide_eq_true fun colon => clean (colon ▸ mem)
  rw [headerOf, if_pos (List.mem_append_right _ List.mem_cons_self),
    List.takeWhile_append_of_pos before, List.dropWhile_append_of_pos before]
  simp

theorem headerOf_eq_some_iff {line name v} :
    headerOf line = some (name, v) ↔ IsHeader line name v := by
  constructor
  · intro header
    by_cases colon : 58 ∈ line
    · obtain ⟨rawName, rawValue, rfl, clean⟩ := List.eq_append_cons_of_mem colon
      rw [headerOf_append clean] at header
      obtain ⟨lower, stripped⟩ := Prod.mk.inj (Option.some.inj header)
      exact ⟨rawName, rawValue, rfl, clean, lower, stripped⟩
    · rw [headerOf, if_neg colon] at header
      cases header
  · rintro ⟨rawName, rawValue, rfl, clean, rfl, rfl⟩
    exact headerOf_append clean rawValue

theorem lastHeader_append_singleton {headers line name v} :
    LastHeader (headers ++ [line]) name v ↔
      IsHeader line name v ∨
        (∀ otherValue, ¬ IsHeader line name otherValue) ∧ LastHeader headers name v := by
  constructor
  · rintro ⟨before, found, after, split, named, others⟩
    rcases List.eq_nil_or_concat after with rfl | ⟨more, last, rfl⟩
    · obtain ⟨-, same⟩ := List.append_inj' split rfl
      rw [List.cons.inj same |>.1]
      exact .inl named
    · rw [List.concat_eq_append, ← List.cons_append, ← List.append_assoc] at split
      obtain ⟨rfl, same⟩ := List.append_inj' split rfl
      rw [List.cons.inj same |>.1]
      refine .inr ⟨others last (by simp), before, found, more, rfl, named, fun other mem => ?_⟩
      exact others other (by simp [mem])
  · rintro (named | ⟨different, before, found, after, rfl, named, others⟩)
    · exact ⟨headers, line, [], rfl, named, fun other mem => absurd mem List.not_mem_nil⟩
    · refine ⟨before, found, after ++ [line], by simp, named, fun other mem => ?_⟩
      rcases List.mem_append.mp mem with mem | mem
      · exact others other mem
      · rw [List.mem_singleton.mp mem]
        exact different

theorem lookup_addHeader (headers line name) :
    (addHeader headers line).lookup name =
      match headerOf line with
      | none => headers.lookup name
      | some (key, v) => if name = key then some v else headers.lookup name := by
  unfold addHeader
  split
  · rfl
  · split
    · next same => rw [same, AList.lookup_insert]
    · next different => exact AList.lookup_insert_ne different

theorem lookup_headers (headers name v) :
    (headers.foldl addHeader ∅).lookup name = some v ↔ LastHeader headers name v := by
  induction headers using List.reverseRecOn with
  | nil =>
    refine iff_of_false (fun absurd => Option.some_ne_none _ absurd.symm) ?_
    rintro ⟨before, line, after, split, -⟩
    exact List.append_ne_nil_of_right_ne_nil before (List.cons_ne_nil line after) split.symm
  | append_singleton headers line ih =>
    have step : (headers ++ [line]).foldl addHeader ∅ =
        addHeader (headers.foldl addHeader ∅) line := List.foldl_append
    rw [step, lookup_addHeader, lastHeader_append_singleton, ← ih]
    simp only [← headerOf_eq_some_iff]
    cases header : headerOf line with
    | none =>
      refine ⟨fun held => .inr ⟨fun _ => nofun, held⟩, ?_⟩
      rintro (⟨⟨⟩⟩ | ⟨-, held⟩)
      exact held
    | some pair =>
      obtain ⟨key, own⟩ := pair
      dsimp only
      by_cases same : name = key
      · subst same
        rw [if_pos rfl]
        constructor
        · rintro ⟨⟩
          exact .inl rfl
        · rintro (same | ⟨different, -⟩)
          · rw [(Prod.mk.inj (Option.some.inj same)).2]
          · exact absurd rfl (different own)
      · rw [if_neg same]
        refine ⟨fun held => .inr ⟨fun other equal => ?_, held⟩, ?_⟩
        · exact same (Prod.mk.inj (Option.some.inj equal)).1.symm
        · rintro (equal | ⟨-, held⟩)
          · exact absurd (Prod.mk.inj (Option.some.inj equal)).1.symm same
          · exact held

theorem headers_parseRequest {buffer request} (parsed : parseRequest buffer = some request) :
    request.headers = (headerLines (lines buffer).tail).foldl addHeader ∅ := by
  unfold parseRequest at parsed
  split at parsed
  · split at parsed
    · cases parsed
    · next _ _ split =>
      split at parsed
      · cases parsed
      · rw [← Option.some.inj parsed, split]
        rfl
  · cases parsed

theorem length_le_of_mem_lines {text line} (mem : line ∈ lines text) :
    line.length ≤ text.length := by
  induction text generalizing line with
  | nil => exact absurd mem List.not_mem_nil
  | cons _ _ ih =>
    unfold lines at mem
    split at mem
    · rcases List.mem_cons.mp mem with rfl | later
      · exact Nat.zero_le _
      · exact (ih later).trans (Nat.le_succ _)
    · split at mem
      · rw [List.mem_singleton.mp mem]
        exact Nat.succ_le_succ (Nat.zero_le _)
      · next _ _ split =>
        rcases List.mem_cons.mp mem with rfl | later
        · exact Nat.succ_le_succ (ih (split ▸ List.mem_cons_self))
        · exact (ih (split ▸ List.mem_cons_of_mem _ later)).trans (Nat.le_succ _)

theorem IsHeader.length_le {line name v} (header : IsHeader line name v) :
    v.length ≤ line.length := by
  obtain ⟨rawName, rawValue, rfl, -, -, rfl⟩ := header
  exact ((List.dropWhile_suffix isSpace).trans
    ((List.suffix_cons 58 rawValue).trans (List.suffix_append rawName _))).length_le

theorem length_popCr_le (line) : (popCr line).length ≤ line.length := by
  unfold popCr
  split
  · exact (List.dropLast_sublist line).length_le
  · exact Nat.le_refl _

theorem LastHeader.length_le {request name v}
    (last : LastHeader (headerLines (lines request).tail) name v) :
    v.length ≤ request.length := by
  obtain ⟨_, line, _, split, named, -⟩ := last
  have mem : line ∈ headerLines (lines request).tail := by
    rw [split]
    exact List.mem_append_right _ List.mem_cons_self
  obtain ⟨whole, present, rfl⟩ := List.mem_map.mp ((List.takeWhile_sublist _).mem mem)
  calc
    v.length ≤ (popCr whole).length := named.length_le
    _ ≤ whole.length := length_popCr_le whole
    _ ≤ request.length := length_le_of_mem_lines (List.mem_of_mem_tail present)

theorem authorized_iff {auth request}
    (short : ∀ v ∈ request.headers.lookup authorization, v.length < 2 ^ 32) :
    authorized (some auth) request = true ↔
      ∃ text, request.headers.lookup authorization = some (basic ++ text) ∧ text ≠ [] ∧
        base64Decode text = auth.expected := by
  unfold authorized
  cases header : request.headers.lookup authorization with
  | none => exact iff_of_false Bool.false_ne_true (by rintro ⟨_, ⟨⟩, _⟩)
  | some v =>
    dsimp only
    by_cases malformed : v.length ≤ basic.length ∨ v.take basic.length ≠ basic
    · rw [if_pos malformed]
      refine iff_of_false Bool.false_ne_true ?_
      rintro ⟨text, same, ne, -⟩
      obtain rfl := Option.some.inj same
      rcases malformed with short | different
      · rw [List.length_append] at short
        exact ne (List.length_eq_zero_iff.mp (by omega))
      · exact different List.take_left
    · rw [if_neg malformed]
      obtain ⟨long, scheme⟩ := not_or.mp malformed
      have split : v = basic ++ v.drop basic.length := by
        conv_lhs => rw [← List.take_append_drop basic.length v, not_not.mp scheme]
      have bound : (base64Decode (v.drop basic.length)).length < 2 ^ 32 :=
        ((length_base64Decode_le _).trans (List.drop_sublist _ _).length_le).trans_lt
          (short v header)
      rw [constantTimeEqual_iff bound auth.expected_clean]
      constructor
      · intro decoded
        refine ⟨v.drop basic.length, by rw [← split], fun empty => long ?_, decoded⟩
        exact List.drop_eq_nil_iff.mp empty
      · rintro ⟨text, same, -, decoded⟩
        rw [Option.some.inj same, List.drop_left]
        exact decoded

theorem status_handleClient {server received request}
    (complete : blankLine <:+: readRequestPayload received)
    (parsed : parseRequest (readRequestPayload received) = some request)
    (get : request.method = ascii ['G', 'E', 'T']) :
    (handleClient server received).status = .unauthorized ↔
      authorized server.auth request = false := by
  have ne : readRequestPayload received ≠ [] := by
    intro empty
    rw [empty] at complete
    exact absurd (List.infix_nil.mp complete) (by decide)
  unfold handleClient
  rw [if_neg (not_or.mpr ⟨ne, not_not.mpr complete⟩), parsed]
  dsimp only
  rw [if_neg (not_not.mpr get)]
  cases authorized server.auth request with
  | false => exact iff_of_true rfl rfl
  | true =>
    refine iff_of_false ?_ (by decide)
    rw [if_neg (by decide)]
    split_ifs <;> nofun

/-- Decoding inverts encoding, and a request is turned away exactly if its last authorization header
does not carry the credentials. -/
theorem basic_auth_admits_configured :
    (∀ bytes text : Bytes,
      text.filter (fun byte => !isSpace byte) = encode bytes ∨
        text.filter (fun byte => !isSpace byte) = encodeUnpadded bytes →
      base64Decode text = bytes) ∧
    ∀ (server : Server) (auth : BasicAuth) (received : List Bytes) (request : HttpRequest),
      server.auth = some auth → (∀ chunk ∈ received, chunk ≠ []) →
      received.flatten.length ≤ kMaxRequestBytes →
      parseRequest received.flatten = some request → request.method = ascii ['G', 'E', 'T'] →
      ((handleClient server received).status ≠ .unauthorized ↔
        ∃ text, LastHeader (headerLines (lines received.flatten).tail) authorization
            (basic ++ text) ∧ text ≠ [] ∧ base64Decode text = auth.expected) := by
  refine ⟨fun bytes text => base64Decode_encode, ?_⟩
  intro server auth received request enabled delivered fits parsed get
  have blank : blankLine <:+: received.flatten := by
    by_contra absent
    rw [parseRequest, if_neg absent] at parsed
    cases parsed
  -- However the request arrives, its headers are read before anything else is done.
  have payload : readRequestPayload received <+: received.flatten ∧
      blankLine <:+: readRequestPayload received := by
    obtain ⟨start, complete⟩ := @readLoop_spec [] received delivered fits
    have short := not_lt.mpr (start.length_le.trans fits)
    rw [readRequestPayload, if_neg short]
    exact ⟨start, complete blank⟩
  have same := parseRequest_of_isPrefix payload.1 payload.2
  have headers (name value : Bytes) : request.headers.lookup name = some value ↔
      LastHeader (headerLines (lines received.flatten).tail) name value := by
    rw [← lookup_headers, headers_parseRequest parsed]
  have short : ∀ value ∈ request.headers.lookup authorization, value.length < 2 ^ 32 :=
    fun value held =>
      ((((headers authorization value).mp held).length_le).trans fits).trans_lt (by decide)
  rw [ne_eq, status_handleClient payload.2 (same.trans parsed) get, enabled, Bool.not_eq_false,
    authorized_iff short]
  exact exists_congr fun text => and_congr_left' (headers authorization (basic ++ text))

/-- A request in two reads, with the credentials of user `u` and password `p`. -/
def plainRequest : List Bytes :=
  [ascii ['G', 'E', 'T', ' ', '/', ' ', 'H', 'T', 'T', 'P', '/', '1', '\r', '\n'],
    ascii ['A', 'u', 't', 'h', 'o', 'r', 'i', 'z', 'a', 't', 'i', 'o', 'n', ':', ' ', 'B', 'a', 's',
      'i', 'c', ' ', 'd', 'T', 'p', 'w', '\r', '\n', '\r', '\n']]

/-- A server with user `u` and password `p`. -/
def guardedServer : Server where
  auth := some ⟨ascii ['u'], ascii ['p'], by decide, by decide⟩
  healthOk := true
  readinessOk := true
  prometheus := []
  healthJson := []

theorem plain_request_admitted :
    (handleClient guardedServer plainRequest).status ≠ .unauthorized := by
  have method : (parseRequest plainRequest.flatten).map HttpRequest.method =
      some (ascii ['G', 'E', 'T']) := by decide
  obtain ⟨request, parsed, get⟩ := Option.map_eq_some_iff.mp method
  refine (basic_auth_admits_configured.2 guardedServer
    ⟨ascii ['u'], ascii ['p'], by decide, by decide⟩ plainRequest request rfl ?_ (by decide) parsed
    get).mpr ⟨ascii ['d', 'T', 'p', 'w'],
      ⟨[], _, [], rfl, headerOf_eq_some_iff.mp rfl, ?_⟩, by decide, by decide⟩
  · rw [plainRequest, List.forall_mem_cons, List.forall_mem_singleton]
    exact ⟨by decide, by decide⟩
  · exact fun other member => absurd member List.not_mem_nil

end Http
end ThermalSimd
