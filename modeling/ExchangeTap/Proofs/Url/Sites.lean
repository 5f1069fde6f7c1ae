import ExchangeTap.Proofs.Url.Cleaning
import ExchangeTap.Proofs.Url.Escaping
import ExchangeTap.Proofs.Url.Names
import ExchangeTap.Proofs.Url.Splitting

namespace ExchangeTap.Url

variable {c : Char} {n : Nat} {text rest front path digits : List Char} {user : User}

def portText : Option Nat → List Char
  | none => []
  | some n => ':' :: Digits.write n

/-- A host and a port as they can be written in a URL. -/
structure Site where
  host : List Char
  port : Option Nat
  named : Host
  reads : Host.parse host = .ok named
  /-- Nothing in the text ends the host early: colons and brackets stand between brackets only. -/
  closed : host.head? = some '[' ∨ ∀ c ∈ host, belongsToHost c = true ∧ c ∉ [':', '[', ']']
  small : ∀ n ∈ port, n < 2 ^ 16

private theorem readPort_append (decimal : ∀ c ∈ digits, Digits.IsDecimal c)
    (small : Digits.read n digits < 2 ^ 16) :
    readPort (some n) (digits ++ rest) = readPort (some (Digits.read n digits)) rest := by
  induction digits generalizing n with
  | nil => rfl
  | cons digit more ih =>
      obtain ⟨isDigit, others⟩ := List.forall_mem_cons.mp decimal
      have next : n * 10 + Digits.value digit < 2 ^ 16 :=
        Nat.lt_of_le_of_lt (Digits.le_read _ more) small
      rw [List.cons_append, readPort, if_pos (show '0' ≤ digit ∧ digit ≤ '9' from isDigit)]
      dsimp only [Option.getD_some]
      rw [if_pos next]
      exact ih others small

private theorem readPort_of_ends {port : Option Nat} (ends : endsAuthority true c = true) :
    readPort port (c :: rest) = .ok (port, c :: rest) := by
  have noDigit : ¬('0' ≤ c ∧ c ≤ '9') := fun decimal => by
    rw [endsAuthority_of_belongsToHost (belongsToHost_of_isDecimal decimal)] at ends
    cases ends
  rw [readPort, if_neg noDigit, if_pos ends]

private theorem readHostPort_portText {port : Option Nat} (small : ∀ n ∈ port, n < 2 ^ 16)
    (ends : endsAuthority true c = true) :
    readHostPort (portText port ++ c :: rest) = .ok (port, c :: rest) := by
  cases port with
  | none =>
      have noColon : c ≠ ':' := by
        rintro rfl
        cases ends
      simp [portText, readHostPort, noColon]
  | some n =>
      obtain ⟨first, more, digits⟩ := List.exists_cons_of_ne_nil (Digits.write_ne_nil n)
      have isDigit : Digits.IsDecimal first :=
        Digits.isDecimal_of_mem_write (n := n) (by rw [digits]; exact List.mem_cons_self)
      have counts : readPort none (Digits.write n ++ c :: rest) =
          readPort (some 0) (Digits.write n ++ c :: rest) := by
        have decimal : '0' ≤ first ∧ first ≤ '9' := isDigit
        rw [digits, List.cons_append, readPort, readPort, if_pos decimal, if_pos decimal]
        rfl
      have value := Digits.read_write n
      have within : Digits.read 0 (Digits.write n) < 2 ^ 16 := value.symm ▸ small n rfl
      rw [portText, List.cons_append, readHostPort, counts,
        readPort_append (fun _ => Digits.isDecimal_of_mem_write) within, value, readPort_of_ends ends]

namespace Site

variable (site : Site)

def written : List Char :=
  site.host ++ portText site.port

def web (user : User) (path : List Char) : Web where
  scheme := "http".toList
  user := user.name
  password := user.password
  host := site.named
  port := if site.port = some 80 then none else site.port
  path := readPath ('/' :: cleanBack path)
  query := none
  fragment := none

private theorem belongsToHost_of_mem_host (here : c ∈ site.host) : belongsToHost c = true := by
  rcases bracketed_cases site.reads with ⟨address, pieces, written, read, -⟩ | ⟨unbracketed, -⟩
  · rw [written] at here
    rcases List.mem_append.mp here with front | close
    · rcases List.mem_cons.mp front with rfl | within
      · rfl
      · exact belongsToHost_of_isAddressChar (isAddressChar_of_parseIpv6 read c within)
    · rw [List.mem_singleton.mp close]
      rfl
  · rcases site.closed with bracket | bare
    · exact absurd bracket unbracketed
    · exact (bare c here).1

private theorem belongsToHost_of_mem_portText {port : Option Nat} (here : c ∈ portText port) :
    belongsToHost c = true := by
  cases port with
  | none => cases here
  | some n =>
      rcases List.mem_cons.mp here with rfl | digit
      · rfl
      · exact belongsToHost_of_isDecimal (Digits.isDecimal_of_mem_write digit)

theorem belongsToHost_of_mem_written (here : c ∈ site.written) : belongsToHost c = true := by
  rcases List.mem_append.mp here with host | port
  · exact site.belongsToHost_of_mem_host host
  · exact belongsToHost_of_mem_portText port

private theorem host_ne_nil : site.host ≠ [] := by
  intro nothing
  have reads := site.reads
  rw [nothing] at reads
  cases reads

private theorem hostLength_host (ends : c = ':' ∨ endsAuthority true c = true) :
    hostLength true false (site.host ++ c :: rest) = site.host.length := by
  rcases bracketed_cases site.reads with ⟨address, pieces, written, read, -⟩ | ⟨unbracketed, -⟩
  · have chars := isAddressChar_of_parseIpv6 read
    have unbracketed : '[' ∉ address ∧ ']' ∉ address :=
      ⟨fun here => absurd (chars _ here) (by decide), fun here => absurd (chars _ here) (by decide)⟩
    have inside : hostLength true true (address ++ ']' :: c :: rest) =
        address.length + hostLength true true (']' :: c :: rest) :=
      hostLength_append (fun c here => belongsToHost_of_isAddressChar (chars c here)) unbracketed (.inl rfl)
    have opens : hostLength true false ('[' :: (address ++ ']' :: c :: rest)) =
        hostLength true true (address ++ ']' :: c :: rest) + 1 := rfl
    have closes : hostLength true true (']' :: c :: rest) = hostLength true false (c :: rest) + 1 := rfl
    rw [hostLength_eq_zero ends] at closes
    rw [written]
    simp only [List.cons_append, List.append_assoc, List.nil_append, List.length_cons, List.length_append,
      List.length_nil, opens, inside, closes]
  · have bare := site.closed.resolve_left unbracketed
    have absent : ∀ d ∈ [':', '[', ']'], d ∉ site.host := fun d mark here => (bare d here).2 mark
    rw [hostLength_append (fun c here => (bare c here).1) ⟨absent '[' (by decide), absent ']' (by decide)⟩
      (.inr (absent ':' (by decide))), hostLength_eq_zero ends, Nat.add_zero]

private theorem hostLength_written (ends : endsAuthority true c = true) :
    hostLength true false (site.written ++ c :: rest) = site.host.length := by
  unfold written
  cases port : site.port with
  | none => simpa [portText] using site.hostLength_host (.inr ends)
  | some n => simpa [portText] using site.hostLength_host (.inl rfl)

private theorem readWeb_of_readUser (alone : readUser true text = .ok (user, site.written ++ '/' :: path))
    (noQuery : '?' ∉ path) (noFragment : '#' ∉ path) (ownPort : Nat) (scheme : List Char) :
    readWeb scheme ownPort text = .ok ⟨scheme, user.name, user.password, site.named,
      if site.port = some ownPort then none else site.port, readPath ('/' :: path), none, none⟩ := by
  have some : site.host.length ≠ 0 := fun none => site.host_ne_nil (List.length_eq_zero_iff.mp none)
  have ends : endsAuthority true '/' = true := rfl
  have host : (site.written ++ '/' :: path).take site.host.length = site.host := by
    rw [written, List.append_assoc, List.take_left]
  have behind : (site.written ++ '/' :: path).drop site.host.length = portText site.port ++ '/' :: path := by
    rw [written, List.append_assoc, List.drop_left]
  have whole : (('/' :: path).takeWhile fun c => c != '?' && c != '#') = '/' :: path := by
    refine List.takeWhile_eq_self_iff.mpr fun c here => ?_
    rcases List.mem_cons.mp here with rfl | within
    · rfl
    · simp [ne_of_mem_of_not_mem within noQuery, ne_of_mem_of_not_mem within noFragment]
  simp only [readWeb, alone, site.hostLength_written ends, if_neg some, host, behind, site.reads,
    readHostPort_portText site.small ends, whole, List.drop_length]
  rfl

def authority : List Char :=
  site.named.text ++ portText (if site.port = some 80 then none else site.port)

theorem belongsToHost_of_mem_authority (here : c ∈ site.authority) : belongsToHost c = true := by
  rcases List.mem_append.mp here with host | port
  · exact belongsToHost_of_mem_text site.reads host
  · exact belongsToHost_of_mem_portText port

theorem authority_ne_nil : site.authority ≠ [] :=
  List.append_ne_nil_of_left_ne_nil (text_ne_nil site.reads) _

theorem anonymous_web (user : User) (path : List Char) :
    (site.web user path).anonymous =
      "http://".toList ++ (site.authority ++ pathText (readPath ('/' :: cleanBack path))) := by
  unfold Web.anonymous authority
  cases written : (if site.port = some 80 then none else site.port) with
  | none => simp [web, written, portText]
  | some n => simp [web, written, portText]

end Site

private theorem takeWhile_authority (inside : ∀ c ∈ front, endsAuthority true c = false)
    (ends : endsAuthority true c = true) :
    (front ++ c :: rest).takeWhile (!endsAuthority true ·) = front := by
  rw [List.takeWhile_append_of_pos (by simpa using inside), List.takeWhile_cons_of_neg (by simp [ends]),
    List.append_nil]

theorem readUser_nobody (inside : ∀ c ∈ text, belongsToHost c = true) (ends : endsAuthority true c = true) :
    readUser true (text ++ c :: rest) = .ok (⟨[], none⟩, text ++ c :: rest) := by
  have authority : (text ++ c :: rest).takeWhile (!endsAuthority true ·) = text :=
    takeWhile_authority (fun c here => endsAuthority_of_belongsToHost (inside c here)) ends
  have nobody : splitLast '@' text = none := splitLast_eq_none_iff.mpr fun here =>
    absurd (inside _ here) (by decide)
  simp only [readUser, authority, nobody]

/-- The user in front of a host, with all bytes of the name and of the password escaped. -/
def userText (username password : List Char) : List Char :=
  escapeAll username ++ ':' :: (escapeAll password ++ ['@'])

def escapedUser (username password : List Char) : User where
  name := escapeAll username
  password := if password.isEmpty then none else some (escapeAll password)

private theorem belongsToHost_of_isEscape (escape : isEscape c = true) : belongsToHost c = true := by
  simp only [isEscape, Bool.or_eq_true, Bool.and_eq_true, decide_eq_true_eq, beq_iff_eq] at escape
  rcases escape with (rfl | decimal) | ⟨least, most⟩
  · rfl
  · exact belongsToHost_of_isDecimal decimal
  · have least : 65 ≤ c.toNat := least
    have most : c.toNat ≤ 70 := most
    refine belongsToHost_of_toNat (by omega) ?_
    simp only [List.mem_cons, List.not_mem_nil, or_false]
    omega

private theorem isEmpty_escapeAll (text : List Char) : (escapeAll text).isEmpty = text.isEmpty := by
  cases text with
  | nil => rfl
  | cons c rest => simpa using escapeAll_ne_nil (List.cons_ne_nil c rest)

theorem visible_of_mem_userText {username password : List Char} (here : c ∈ userText username password) :
    ¬c ≤ ' ' ∧ endsAuthority true c = false := by
  have escaped : ∀ {text : List Char},
      c ∈ escapeAll text → ¬c ≤ ' ' ∧ endsAuthority true c = false := by
    intro text here
    have belongs := belongsToHost_of_isEscape (isEscape_of_mem here)
    exact ⟨not_le_of_belongsToHost belongs, endsAuthority_of_belongsToHost belongs⟩
  simp only [userText, List.mem_append, List.mem_cons, List.not_mem_nil, or_false] at here
  rcases here with name | rfl | password | rfl
  · exact escaped name
  · exact ⟨by decide, rfl⟩
  · exact escaped password
  · exact ⟨by decide, rfl⟩

theorem readUser_userText (username password : List Char)
    (inside : ∀ c ∈ text, belongsToHost c = true) (ends : endsAuthority true c = true) :
    readUser true (userText username password ++ text ++ c :: rest) =
      .ok (escapedUser username password, text ++ c :: rest) := by
  have names : splitFirst ':' [] (escapeAll username ++ ':' :: escapeAll password) =
      some (escapeAll username, escapeAll password) :=
    splitFirst_eq_some_iff.mpr ⟨rfl, notMem_escapeAll rfl⟩
  have user : splitLast '@' (userText username password ++ text) =
      some (escapeAll username ++ ':' :: escapeAll password, text) :=
    splitLast_eq_some_iff.mpr ⟨by simp [userText], fun here => absurd (inside _ here) (by decide)⟩
  have goesOn : ∀ c ∈ userText username password ++ text, endsAuthority true c = false := by
    intro c here
    rcases List.mem_append.mp here with user | host
    · exact (visible_of_mem_userText user).2
    · exact endsAuthority_of_belongsToHost (inside c host)
  have someone : (escapeAll username ++ ':' :: escapeAll password).isEmpty = false := by simp
  simp only [readUser, takeWhile_authority goesOn ends, user, someone, names, List.drop_left,
    isEmpty_escapeAll, Bool.false_and, Bool.false_eq_true, if_false, escapedUser]

private theorem clean_http (visible : ∀ c ∈ front, ¬c ≤ ' ') :
    clean ("http://".toList ++ (front ++ '/' :: path)) =
      "http://".toList ++ (front ++ '/' :: cleanBack path) := by
  have kept : front.filter isKept = front :=
    List.filter_eq_self.mpr fun c here => isKept_of_visible (visible c here)
  have scheme : cleanFront ['h', 't', 't', 'p', ':', '/'] = ['h', 't', 't', 'p', ':', '/'] := by decide
  have cleaned := clean_append (c := '/') (by decide) ['h', 't', 't', 'p', ':', '/'] (front ++ '/' :: path)
  rw [cleanBack_append (by decide), kept, scheme] at cleaned
  exact cleaned

private theorem readScheme_http (text : List Char) :
    readScheme ("http://".toList ++ text) = some ("http".toList, '/' :: '/' :: text) := by
  have colon : splitFirst ':' [] ("http://".toList ++ text) = some ("http".toList, '/' :: '/' :: text) :=
    splitFirst_eq_some_iff.mpr ⟨rfl, by decide⟩
  rw [readScheme, colon]
  rfl

/-- Behind `http://` neither the user nor the host begins with a slash, so both are read as they stand. -/
theorem parseChars_append {site : Site} (visible : ∀ c ∈ front, ¬c ≤ ' ' ∧ endsAuthority true c = false)
    (alone : readUser true (front ++ site.written ++ '/' :: cleanBack path) =
      .ok (user, site.written ++ '/' :: cleanBack path))
    (noQuery : '?' ∉ path) (noFragment : '#' ∉ path) :
    parseChars ("http://".toList ++ (front ++ site.written ++ '/' :: path)) =
      .ok (.web (site.web user path)) := by
  have all : ∀ c ∈ front ++ site.written, ¬c ≤ ' ' ∧ endsAuthority true c = false := by
    intro c here
    rcases List.mem_append.mp here with user | host
    · exact visible c user
    · have belongs := site.belongsToHost_of_mem_written host
      exact ⟨not_le_of_belongsToHost belongs, endsAuthority_of_belongsToHost belongs⟩
  have own : servicePort? "http".toList = some 80 := by decide
  have slashes : (('/' :: '/' :: (front ++ site.written ++ '/' :: cleanBack path)).dropWhile fun c =>
      c == '/' || c == '\\') = front ++ site.written ++ '/' :: cleanBack path := by
    cases start : front ++ site.written with
    | nil => simp [Site.written, site.host_ne_nil] at start
    | cons first more =>
        have goesOn := (all first (start ▸ List.mem_cons_self)).2
        simp only [endsAuthority, Bool.or_eq_false_iff, Bool.true_and] at goesOn
        simp [goesOn]
  simp only [parseChars, clean_http fun c here => (all c here).1, readScheme_http, own, slashes,
    site.readWeb_of_readUser alone (notMem_cleanBack noQuery) (notMem_cleanBack noFragment)]
  rfl

end ExchangeTap.Url
