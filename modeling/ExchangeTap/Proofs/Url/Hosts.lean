import Mathlib.Data.List.Basic
import Mathlib.Data.List.TakeWhile
import ExchangeTap.Url.Parse

namespace ExchangeTap.Url

variable {c : Char} {text rest : List Char} {value fuel : Nat} {pieces : List Nat}

def isAddressChar (c : Char) : Bool :=
  (Digits.valueIn? 16 c).isSome || c == ':' || c == '.'

private theorem isAddressChar_of_hex (hex : (Digits.valueIn? 16 c).isSome = true) :
    isAddressChar c = true := by
  simp [isAddressChar, hex]

private theorem isAddressChar_of_decimal (decimal : ('0' ≤ c && c ≤ '9') = true) :
    isAddressChar c = true := by
  rw [Bool.and_eq_true, decide_eq_true_eq, decide_eq_true_eq] at decimal
  have least : 48 ≤ c.toNat := decimal.1
  have most : c.toNat ≤ 57 := decimal.2
  have some : Digits.valueIn? 16 c = some (c.toNat - 48) := by
    simp only [Digits.valueIn?, if_pos (And.intro least most)]
    rw [if_pos (by omega)]
  exact isAddressChar_of_hex (Option.isSome_iff_exists.mpr ⟨_, some⟩)

private theorem isAddressChar_of_front {front : List Char} (first : front <+: text)
    (chars : ∀ c ∈ front, isAddressChar c = true)
    (others : ∀ c ∈ text.drop front.length, isAddressChar c = true) :
    ∀ c ∈ text, isAddressChar c = true := by
  obtain ⟨behind, rfl⟩ := first
  rw [List.drop_left] at others
  exact List.forall_mem_append.mpr ⟨chars, others⟩

private theorem isAddressChar_of_ipv6Byte (read : ipv6Byte text = some (value, rest))
    (others : ∀ c ∈ rest, isAddressChar c = true) : ∀ c ∈ text, isAddressChar c = true := by
  unfold ipv6Byte at read
  dsimp only at read
  split at read
  · cases read
  · cases read
    refine isAddressChar_of_front (List.takeWhile_prefix _) (fun c here => ?_) others
    have decimal := List.mem_takeWhile_imp here
    exact isAddressChar_of_decimal decimal

private theorem isAddressChar_of_bind {next : Nat × List Char → Option (List Nat)}
    (read : (ipv6Byte text).bind next = some pieces)
    (others : ∀ value rest, next (value, rest) = some pieces → ∀ c ∈ rest, isAddressChar c = true) :
    ∀ c ∈ text, isAddressChar c = true := by
  obtain ⟨⟨value, rest⟩, readByte, readRest⟩ := Option.bind_eq_some_iff.mp read
  exact isAddressChar_of_ipv6Byte readByte (others value rest readRest)

private theorem isAddressChar_of_ipv6Tail (read : ipv6Tail text = some pieces) :
    ∀ c ∈ text, isAddressChar c = true := by
  have dot : ∀ {text : List Char}, (∀ c ∈ text, isAddressChar c = true) →
      ∀ c ∈ '.' :: text, isAddressChar c = true := fun others =>
    List.forall_mem_cons.mpr ⟨rfl, others⟩
  -- four numbers, with a dot in front of each but the first, and nothing behind them
  refine isAddressChar_of_bind read fun a rest read => ?_
  dsimp only at read
  split at read
  case h_2 => cases read
  refine dot (isAddressChar_of_bind read fun b rest read => ?_)
  dsimp only at read
  split at read
  case h_2 => cases read
  refine dot (isAddressChar_of_bind read fun c rest read => ?_)
  dsimp only at read
  split at read
  case h_2 => cases read
  refine dot (isAddressChar_of_bind read fun d rest read => ?_)
  dsimp only at read
  split at read
  case isFalse => cases read
  case isTrue nothing =>
    rw [List.isEmpty_iff.mp nothing]
    exact nofun

def pieceDigits (text : List Char) : List Char :=
  (text.take 4).takeWhile fun c => (Digits.valueIn? 16 c).isSome

private theorem isAddressChar_of_pieceDigits
    (others : ∀ c ∈ text.drop (pieceDigits text).length, isAddressChar c = true) :
    ∀ c ∈ text, isAddressChar c = true := by
  have first : pieceDigits text <+: text := (List.takeWhile_prefix _).trans (List.take_prefix _ _)
  refine isAddressChar_of_front first (fun c here => ?_) others
  have hex := List.mem_takeWhile_imp (p := fun c => (Digits.valueIn? 16 c).isSome) here
  exact isAddressChar_of_hex hex

private theorem isAddressChar_of_ipv6Pieces {gap gap' : Option Nat} {found : List Nat}
    (read : ipv6Pieces pieces gap text fuel = some (found, gap')) : ∀ c ∈ text, isAddressChar c = true := by
  fun_induction ipv6Pieces pieces gap text fuel with
  | case1 | case3 | case5 | case7 | case9 | case11 => cases read
  | case2 => exact nofun
  | case4 pieces gap fuel rest free ih => exact List.forall_mem_cons.mpr ⟨rfl, ih read⟩
  | case6 pieces gap fuel text some noColon free digits value ends =>
      refine isAddressChar_of_pieceDigits ?_
      rw [show text.drop (pieceDigits text).length = [] from ends]
      exact nofun
  | case8 pieces gap fuel text some noColon free digits tail dot early =>
      obtain ⟨last, readTail, -⟩ := Option.map_eq_some_iff.mp read
      exact isAddressChar_of_ipv6Tail readTail
  | case10 pieces gap fuel text some noColon free digits value rest colon more ih =>
      refine isAddressChar_of_pieceDigits ?_
      rw [show text.drop (pieceDigits text).length = ':' :: rest from colon]
      exact List.forall_mem_cons.mpr ⟨rfl, ih read⟩

theorem isAddressChar_of_parseIpv6 (read : parseIpv6 text = .ok pieces) :
    ∀ c ∈ text, isAddressChar c = true := by
  unfold parseIpv6 at read
  dsimp only at read
  split at read
  case h_3 => cases read
  all_goals
    rename_i readPieces
    split at readPieces
    case h_1 rest =>
      exact List.forall_mem_cons.mpr
        ⟨rfl, List.forall_mem_cons.mpr ⟨rfl, isAddressChar_of_ipv6Pieces readPieces⟩⟩
    case h_2 => cases readPieces
    case h_3 =>
      split at readPieces
      · cases readPieces
      · exact isAddressChar_of_ipv6Pieces readPieces

/-- What may stand in a host: visible characters that end neither the authority of a URL nor the user in
it. -/
def belongsToHost (c : Char) : Bool :=
  ' ' < c && c != '@' && !endsAuthority true c

theorem belongsToHost_of_ne (visible : ' ' < c) (unmarked : ∀ d ∈ ['#', '/', '?', '@', '\\'], c ≠ d) :
    belongsToHost c = true := by
  simp only [List.forall_mem_cons] at unmarked
  simp [belongsToHost, endsAuthority, visible, unmarked]

theorem belongsToHost_of_toNat (visible : 32 < c.toNat) (unmarked : c.toNat ∉ [35, 47, 63, 64, 92]) :
    belongsToHost c = true := by
  refine belongsToHost_of_ne visible ?_
  rintro d mark rfl
  exact unmarked (List.mem_map_of_mem mark)

private theorem toNat_of_hex (hex : (Digits.valueIn? 16 c).isSome = true) :
    48 ≤ c.toNat ∧ c.toNat ≤ 57 ∨ 65 ≤ c.toNat ∧ c.toNat ≤ 70 ∨
      97 ≤ c.toNat ∧ c.toNat ≤ 102 := by
  simp only [Digits.valueIn?] at hex
  split_ifs at hex <;> first | omega | cases hex

theorem belongsToHost_of_isAddressChar (address : isAddressChar c = true) : belongsToHost c = true := by
  simp only [isAddressChar, Bool.or_eq_true, beq_iff_eq] at address
  rcases address with (hex | rfl) | rfl
  · have code := toNat_of_hex hex
    refine belongsToHost_of_toNat (by omega) ?_
    simp only [List.mem_cons, List.not_mem_nil, or_false]
    omega
  · rfl
  · rfl

theorem bracketed_cases {otherwise : Except Fault Host} {host : Host}
    (read : bracketed text otherwise = .ok host) :
    (∃ address pieces,
        text = '[' :: address ++ [']'] ∧ parseIpv6 address = .ok pieces ∧ host = .ipv6 pieces) ∨
      text.head? ≠ some '[' ∧ otherwise = .ok host := by
  unfold bracketed at read
  split at read
  · rename_i inner
    split at read
    · rename_i closes
      cases address : parseIpv6 inner.dropLast with
      | error fault =>
          rw [address] at read
          cases read
      | ok pieces =>
          rw [address] at read
          cases read
          refine .inl ⟨inner.dropLast, pieces, ?_, address, rfl⟩
          rw [List.cons_append, List.dropLast_append_getLast? _ closes]
    · cases read
  · rename_i unbracketed
    refine .inr ⟨fun bracket => ?_, read⟩
    obtain ⟨rest, rfl⟩ := List.head?_eq_some_iff.mp bracket
    exact unbracketed rest rfl

theorem hostLength_eq_zero (ends : c = ':' ∨ endsAuthority true c = true) :
    hostLength true false (c :: rest) = 0 := by
  rw [hostLength, if_pos (by simpa using ends)]

theorem endsAuthority_of_belongsToHost (belongs : belongsToHost c = true) : endsAuthority true c = false := by
  simp only [belongsToHost, Bool.and_eq_true, Bool.not_eq_true'] at belongs
  exact belongs.2

theorem not_le_of_belongsToHost (belongs : belongsToHost c = true) : ¬c ≤ ' ' := by
  simp only [belongsToHost, Bool.and_eq_true, decide_eq_true_eq] at belongs
  exact Char.not_le.mpr belongs.1.1

theorem hostLength_append {inside : Bool} (belong : ∀ c ∈ text, belongsToHost c = true)
    (unbracketed : '[' ∉ text ∧ ']' ∉ text) (closed : inside = true ∨ ':' ∉ text) :
    hostLength true inside (text ++ rest) = text.length + hostLength true inside rest := by
  induction text with
  | nil => simp
  | cons c more ih =>
      have goesOn := endsAuthority_of_belongsToHost (belong c List.mem_cons_self)
      have noColon : ¬(c == ':' && !inside) = true := by
        rcases closed with rfl | absent
        · simp
        · simp [Ne.symm (List.ne_of_not_mem_cons absent)]
      rw [List.cons_append, hostLength, if_neg (by simpa [goesOn] using noColon),
        if_neg (Ne.symm (List.ne_of_not_mem_cons unbracketed.1)),
        if_neg (Ne.symm (List.ne_of_not_mem_cons unbracketed.2)),
        ih (fun d later => belong d (List.mem_cons_of_mem c later))
          ⟨List.not_mem_of_not_mem_cons unbracketed.1, List.not_mem_of_not_mem_cons unbracketed.2⟩
          (closed.imp_right List.not_mem_of_not_mem_cons), List.length_cons]
      omega

end ExchangeTap.Url
