import Conformance.Proofs.Outcome
import Conformance.Proofs.Text.Digit
import Conformance.Proofs.Text.Split
import Conformance.Url.Ip

/-! An address that was read is written in a form that reads as the same address. -/
namespace Conformance.Url

open Text (splitAt joinWith ofDigits hex hexValue)

variable {c : Char} {cs : List Char} {address : Nat} {pieces : List Nat}

/-! ### Version 4 -/

/-- What a number in digits, without a zero in front of others, counts as. -/
theorem ipv4Number_toDigits (n : Nat) : ipv4Number (Nat.toDigits 10 n) = some n := by
  have hne : (Nat.toDigits 10 n).isEmpty = false :=
    List.isEmpty_eq_false_iff.mpr Nat.toDigits_ne_nil
  have hbase : splitBase (Nat.toDigits 10 n) = (10, Nat.toDigits 10 n) := by
    cases hd : Nat.toDigits 10 n with
    | nil => rfl
    | cons c rest =>
      by_cases hc : c = '0'
      · subst hc
        rw [Text.toDigits_eq_cons_zero hd]
        rfl
      · simp only [splitBase]
        split <;> simp_all
  rw [ipv4Number, hne]
  simp only [Bool.false_eq_true, if_false, hbase]
  exact Text.ofDigits_toDigits n

/-- The four bytes of an address, the first one first. -/
def ipv4Bytes (address : Nat) : List Nat :=
  [address / 0x1000000 % 0x100, address / 0x10000 % 0x100, address / 0x100 % 0x100,
    address % 0x100]

theorem writeIpv4_eq (address : Nat) :
    writeIpv4 address = joinWith '.' ((ipv4Bytes address).map (Nat.toDigits 10)) := by
  simp [writeIpv4, ipv4Bytes, joinWith, Nat.shiftRight_eq_div_pow]

theorem ofIpv4Numbers_bytes (h : address < 2 ^ 32) :
    ofIpv4Numbers 4 (ipv4Bytes address) = some address := by
  have hlt : ∀ n, n % 0x100 < 256 := fun n => Nat.mod_lt n (by decide)
  simp only [ipv4Bytes, ofIpv4Numbers, hlt, if_true, Nat.shiftLeft_eq, Option.map_some]
  refine congrArg some ?_
  omega

theorem ofIpv4Numbers_lt {place : Nat} {numbers : List Nat} (hl : numbers.length ≤ place)
    (h : ofIpv4Numbers place numbers = some address) : address < 2 ^ (8 * place) := by
  induction numbers generalizing place address with
  | nil => cases h
  | cons n rest ih =>
    cases rest with
    | nil =>
      rw [ofIpv4Numbers] at h
      split at h
      · rename_i hn
        cases h
        rwa [Nat.one_shiftLeft] at hn
      · cases h
    | cons m rest =>
      rw [ofIpv4Numbers] at h
      · split at h
        · rename_i hn
          obtain ⟨tail, ht, rfl⟩ := Option.map_eq_some_iff.mp h
          obtain ⟨k, rfl⟩ : ∃ k, place = k + 1 := ⟨place - 1, by simp at hl; omega⟩
          have hk : tail < 2 ^ (8 * k) := ih (by simpa using hl) ht
          have hmul : (n + 1) * 2 ^ (8 * k) ≤ 256 * 2 ^ (8 * k) := Nat.mul_le_mul_right _ hn
          rw [Nat.add_sub_cancel, Nat.shiftLeft_eq]
          rw [Nat.succ_mul] at hmul
          rw [Nat.mul_succ, Nat.pow_add]
          omega
        · cases h
      · exact fun hr => nomatch hr

theorem readIpv4_lt (h : readIpv4 cs = some address) : address < 2 ^ 32 := by
  simp only [readIpv4] at h
  split at h
  · cases h
  · rename_i hl
    simp only [Option.bind_eq_bind, Option.bind_eq_some_iff] at h
    obtain ⟨numbers, hn, h⟩ := h
    have hlen : (dottedParts cs).length = numbers.length := (Outcome.mapM_eq_some hn).1
    exact ofIpv4Numbers_lt (by omega) h

theorem dottedParts_writeIpv4 (address : Nat) :
    dottedParts (writeIpv4 address) = (ipv4Bytes address).map (Nat.toDigits 10) := by
  have hs : splitAt '.' (writeIpv4 address) = (ipv4Bytes address).map (Nat.toDigits 10) := by
    rw [writeIpv4_eq]
    refine Text.splitAt_joinWith (by simp [ipv4Bytes]) fun part hp hm => ?_
    obtain ⟨n, _, rfl⟩ := List.mem_map.mp hp
    exact absurd (Text.isDigit_of_mem_toDigits hm) (by decide)
  rw [dottedParts, hs]
  refine if_neg ?_
  simp [ipv4Bytes, Nat.toDigits_ne_nil]

theorem readIpv4_writeIpv4 (h : address < 2 ^ 32) : readIpv4 (writeIpv4 address) = some address := by
  have hread : ((ipv4Bytes address).map (Nat.toDigits 10)).mapM ipv4Number =
      some (ipv4Bytes address) :=
    Outcome.mapM_map_of_reads fun n _ => ipv4Number_toDigits n
  rw [readIpv4, dottedParts_writeIpv4]
  simp only [List.length_map, hread]
  simpa [ipv4Bytes] using ofIpv4Numbers_bytes h

theorem endsInNumber_writeIpv4 (address : Nat) : endsInNumber (writeIpv4 address) = true := by
  rw [endsInNumber, dottedParts_writeIpv4]
  simp [ipv4Bytes, ipv4Number_toDigits]

theorem mem_writeIpv4 (h : c ∈ writeIpv4 address) : c.isDigit = true ∨ c = '.' := by
  rw [writeIpv4_eq] at h
  obtain h | ⟨part, hp, hm⟩ := Text.mem_joinWith h
  · exact Or.inr h
  · obtain ⟨n, _, rfl⟩ := List.mem_map.mp hp
    exact Or.inl (Text.isDigit_of_mem_toDigits hm)

/-! ### Version 6 -/

theorem ipv6Piece_hex {n : Nat} (h : n < 0x10000) : ipv6Piece (hex n) = some n := by
  have hlen : (hex n).length ≤ 4 := Text.length_hex_le (by decide) h
  rw [ipv6Piece, if_neg, Text.ofDigits_hex]
  rw [List.isEmpty_iff]
  rintro (he | hl)
  · exact Text.hex_ne_nil n he
  · omega

theorem ipv6Piece_lt {n : Nat} (h : ipv6Piece cs = some n) : n < 0x10000 := by
  rw [ipv6Piece] at h
  split at h
  · cases h
  · rename_i hl
    have hlen : cs.length ≤ 4 := by
      rw [not_or] at hl
      exact Nat.not_lt.mp hl.2
    exact Nat.lt_of_lt_of_le (Text.ofDigits_lt h) (Nat.pow_le_pow_right (by decide) hlen)

theorem plainByte_lt {n : Nat} (h : plainByte cs = some n) : n < 256 := by
  simp only [plainByte] at h
  split at h
  · cases h
  · simp only [Option.bind_eq_bind, Option.bind_eq_some_iff] at h
    obtain ⟨m, _, h⟩ := h
    split at h
    · rename_i hm
      cases h
      exact hm
    · cases h

theorem ipv6Tail_lt (h : ipv6Tail cs = some pieces) : ∀ p ∈ pieces, p < 0x10000 := by
  rw [ipv6Tail] at h
  split at h
  · simp only [Option.bind_eq_bind, Option.bind_eq_some_iff] at h
    obtain ⟨bytes, hb, h⟩ := h
    have hlt : ∀ b ∈ bytes, b < 256 := fun b hm => by
      obtain ⟨part, _, hp⟩ := (Outcome.mapM_eq_some hb).2.1 b hm
      exact plainByte_lt hp
    split at h
    · rename_i b1 b2 b3 b4
      cases h
      simp only [List.mem_cons, List.not_mem_nil, or_false, forall_eq_or_imp, forall_eq] at hlt ⊢
      omega
    · cases h
  · obtain ⟨n, hn, rfl⟩ := Option.map_eq_some_iff.mp h
    exact fun p hp => List.mem_singleton.mp hp ▸ ipv6Piece_lt hn

theorem ipv6Pieces_lt {isEnd : Bool} (h : ipv6Pieces isEnd cs = some pieces) :
    ∀ p ∈ pieces, p < 0x10000 := by
  rw [ipv6Pieces] at h
  split at h
  · cases h
    exact List.forall_mem_nil _
  · simp only [Option.bind_eq_bind, Option.bind_eq_some_iff] at h
    obtain ⟨front, hf, last, hl, h⟩ := h
    cases h
    intro p hp
    obtain hp | hp := List.mem_append.mp hp
    · obtain ⟨part, _, hr⟩ := (Outcome.mapM_eq_some hf).2.1 p hp
      exact ipv6Piece_lt hr
    · cases isEnd with
      | true => exact ipv6Tail_lt hl p hp
      | false =>
        obtain ⟨n, hn, rfl⟩ := Option.map_eq_some_iff.mp hl
        exact List.mem_singleton.mp hp ▸ ipv6Piece_lt hn

/-- Eight pieces of 16 bits. -/
theorem readIpv6_spec (h : readIpv6 cs = some pieces) :
    pieces.length = 8 ∧ ∀ p ∈ pieces, p < 0x10000 := by
  rw [readIpv6] at h
  split at h
  · simp only [Option.bind_eq_bind, Option.bind_eq_some_iff] at h
    obtain ⟨all, ha, h⟩ := h
    split at h
    · rename_i hl
      cases h
      exact ⟨hl, ipv6Pieces_lt ha⟩
    · cases h
  · simp only [Option.bind_eq_bind, Option.bind_eq_some_iff] at h
    obtain ⟨front, hf, back, hb, h⟩ := h
    split at h
    · rename_i hl
      cases h
      constructor
      · simp only [List.length_append, List.length_replicate]
        omega
      · intro p hp
        simp only [List.mem_append, List.mem_replicate] at hp
        obtain (hp | ⟨_, rfl⟩) | hp := hp
        · exact ipv6Pieces_lt hf p hp
        · decide
        · exact ipv6Pieces_lt hb p hp
    · cases h

/-- Hexadecimal numbers are not empty and hold no colon and no dot. -/
theorem not_mem_hex {n : Nat} (hc : hexValue c = none) : c ∉ hex n := by
  intro hm
  have hs := Text.isSome_hexValue_of_mem_hex hm
  rw [hc] at hs
  cases hs

theorem ipv6Pieces_writePieces {isEnd : Bool} (h : ∀ p ∈ pieces, p < 0x10000) :
    ipv6Pieces isEnd (writePieces pieces) = some pieces := by
  induction pieces using List.reverseRecOn with
  | nil => rfl
  | append_singleton front last _ =>
    have hparts : splitAt ':' (writePieces (front ++ [last])) = front.map hex ++ [hex last] := by
      have hno : ∀ part ∈ (front ++ [last]).map hex, ':' ∉ part := by
        intro part hp
        obtain ⟨n, _, rfl⟩ := List.mem_map.mp hp
        exact not_mem_hex (by decide)
      rw [writePieces, Text.splitAt_joinWith (by simp) hno, List.map_append]
      rfl
    have hne : (writePieces (front ++ [last])).isEmpty = false := by
      rw [List.isEmpty_eq_false_iff]
      intro he
      rw [he] at hparts
      have hlen := congrArg List.getLast? hparts
      rw [List.getLast?_concat] at hlen
      exact Text.hex_ne_nil last (Option.some.inj hlen).symm
    have hfront : (front.map hex).mapM ipv6Piece = some front :=
      Outcome.mapM_map_of_reads fun p hp => ipv6Piece_hex (h p (List.mem_append_left _ hp))
    have hlast : ipv6Piece (hex last) = some last := ipv6Piece_hex (h last (by simp))
    have htail : (if isEnd then ipv6Tail else fun g => (ipv6Piece g).map ([·])) (hex last) =
        some [last] := by
      cases isEnd with
      | false => simp [hlast]
      | true =>
        have hdot : (hex last).contains '.' = false := by
          simpa using not_mem_hex (n := last) (c := '.') (by decide)
        rw [if_pos rfl, ipv6Tail, hdot]
        simp [hlast]
    rw [ipv6Pieces, hne]
    simp only [Bool.false_eq_true, if_false, hparts, List.dropLast_concat, hfront,
      List.getLastD_concat, htail, Option.bind_eq_bind, Option.bind_some]

/-- Text without colons is no part of a pair of colons. -/
theorem cutDoubleColon_append {part rest : List Char} (h : ':' ∉ part) :
    cutDoubleColon (part ++ rest) =
      (cutDoubleColon rest).map fun cut => (part ++ cut.1, cut.2) := by
  induction part with
  | nil => simp
  | cons c part ih =>
    have hc : c ≠ ':' := by
      rintro rfl
      exact h List.mem_cons_self
    have hp : ':' ∉ part := fun hm => h (List.mem_cons_of_mem c hm)
    rw [List.cons_append, cutDoubleColon, ih hp, Option.map_map]
    · rfl
    · exact fun _ he => absurd he hc

theorem cutDoubleColon_colon {c : Char} {rest : List Char} (hc : c ≠ ':') :
    cutDoubleColon (':' :: c :: rest) =
      (cutDoubleColon (c :: rest)).map fun cut => (':' :: cut.1, cut.2) := by
  rw [cutDoubleColon]
  intro more _ he
  exact hc (List.cons.inj he).1

theorem writePieces_head (p : Nat) (pieces : List Nat) :
    ∃ c more, writePieces (p :: pieces) = c :: more ∧ c ≠ ':' := by
  obtain ⟨c, more, hp⟩ := List.exists_cons_of_ne_nil (Text.hex_ne_nil p)
  have hc : c ≠ ':' := by
    rintro rfl
    exact not_mem_hex (n := p) (by decide) (hp ▸ List.mem_cons_self)
  cases pieces with
  | nil => exact ⟨c, more, hp, hc⟩
  | cons q rest =>
    refine ⟨c, more ++ ':' :: writePieces (q :: rest), ?_, hc⟩
    change hex p ++ ':' :: writePieces (q :: rest) = _
    rw [hp, List.cons_append]

/-- There is no pair of colons in pieces, only after them. -/
theorem cutDoubleColon_writePieces (pieces : List Nat) :
    cutDoubleColon (writePieces pieces) = none ∧ ∀ rest,
      cutDoubleColon (writePieces pieces ++ ':' :: ':' :: rest) =
        some (writePieces pieces, rest) := by
  induction pieces with
  | nil => exact ⟨rfl, fun _ => rfl⟩
  | cons p pieces ih =>
    have hp : ':' ∉ hex p := not_mem_hex (by decide)
    cases pieces with
    | nil =>
      refine ⟨?_, fun rest => ?_⟩
      · rw [writePieces, List.map_singleton, joinWith, ← List.append_nil (hex p),
          cutDoubleColon_append hp]
        rfl
      · rw [writePieces, List.map_singleton, joinWith, cutDoubleColon_append hp]
        simp [cutDoubleColon]
    | cons q rest =>
      have hw : writePieces (p :: q :: rest) = hex p ++ ':' :: writePieces (q :: rest) := rfl
      obtain ⟨c, more, hq, hc⟩ := writePieces_head q rest
      obtain ⟨hnone, hsome⟩ := ih
      refine ⟨?_, fun after => ?_⟩
      · rw [hw, cutDoubleColon_append hp, hq, cutDoubleColon_colon hc, ← hq, hnone]
        rfl
      · have hafter := hsome after
        rw [hq, List.cons_append] at hafter
        rw [hw, List.append_assoc, cutDoubleColon_append hp, List.cons_append, hq, List.cons_append,
          cutDoubleColon_colon hc, hafter]
        rfl

/-- What is left out are zeros. -/
theorem longestZeros_spec (index : Nat) (pieces : List Nat) : ∃ front back,
    pieces = front ++ List.replicate (longestZeros index pieces).2 0 ++ back ∧
      (longestZeros index pieces).1 = index + front.length := by
  induction pieces generalizing index with
  | nil => exact ⟨[], [], rfl, rfl⟩
  | cons piece pieces ih =>
    obtain ⟨front, back, hp, hs⟩ := ih (index + 1)
    simp only [longestZeros]
    split
    · -- the run that starts here is the longest
      have hzeros : (piece :: pieces).takeWhile (· = 0) =
          List.replicate ((piece :: pieces).takeWhile (· = 0)).length 0 := by
        refine List.eq_replicate_iff.mpr ⟨rfl, fun n hn => ?_⟩
        exact of_decide_eq_true (List.all_eq_true.mp List.all_takeWhile n hn)
      refine ⟨[], (piece :: pieces).dropWhile (· = 0), ?_, rfl⟩
      rw [← hzeros, List.nil_append, List.takeWhile_append_dropWhile]
    · refine ⟨piece :: front, back, ?_, ?_⟩
      · rw [List.cons_append, List.cons_append, ← hp]
      · rw [hs, List.length_cons]
        omega

theorem readIpv6_writeIpv6 (hl : pieces.length = 8) (h : ∀ p ∈ pieces, p < 0x10000) :
    readIpv6 (writeIpv6 pieces) = some pieces := by
  obtain ⟨front, back, hp, hs⟩ := longestZeros_spec 0 pieces
  rw [Nat.zero_add] at hs
  simp only [writeIpv6]
  split
  · rw [readIpv6, (cutDoubleColon_writePieces pieces).1]
    simp [ipv6Pieces_writePieces h, hl]
  · rename_i hlong
    generalize (longestZeros 0 pieces).2 = run at hp hlong ⊢
    have hfront : pieces.take (longestZeros 0 pieces).1 = front := by
      rw [hs, hp, List.append_assoc, List.take_left]
    have hback : pieces.drop ((longestZeros 0 pieces).1 + run) = back := by
      have hlen : (longestZeros 0 pieces).1 + run = (front ++ List.replicate run 0).length := by
        rw [hs, List.length_append, List.length_replicate]
      rw [hlen, hp, List.drop_left]
    have hf : ∀ p ∈ front, p < 0x10000 := fun p hm => h p (by simp [hp, hm])
    have hb : ∀ p ∈ back, p < 0x10000 := fun p hm => h p (by simp [hp, hm])
    have hcount : front.length + run + back.length = 8 := by
      rw [hp, List.length_append, List.length_append, List.length_replicate] at hl
      exact hl
    rw [hfront, hback, readIpv6, (cutDoubleColon_writePieces front).2]
    simp only [ipv6Pieces_writePieces hf, ipv6Pieces_writePieces hb, Option.bind_eq_bind,
      Option.bind_some]
    rw [if_pos (by omega), hp]
    congr
    omega

theorem mem_writePieces (h : c ∈ writePieces pieces) : (hexValue c).isSome ∨ c = ':' := by
  obtain h | ⟨part, hp, hm⟩ := Text.mem_joinWith h
  · exact Or.inr h
  · obtain ⟨n, _, rfl⟩ := List.mem_map.mp hp
    exact Or.inl (Text.isSome_hexValue_of_mem_hex hm)

theorem mem_writeIpv6 (h : c ∈ writeIpv6 pieces) : (hexValue c).isSome ∨ c = ':' := by
  simp only [writeIpv6] at h
  split at h
  · exact mem_writePieces h
  · simp only [List.mem_append, List.mem_cons] at h
    obtain h | h | h | h := h
    · exact mem_writePieces h
    · exact Or.inr h
    · exact Or.inr h
    · exact mem_writePieces h

/-! ### What an address of version 6 may hold -/

/-- Characters of an address of version 6. -/
def isIpv6Char (c : Char) : Bool := (hexValue c).isSome || c = ':' || c = '.'

theorem mem_of_ipv6Piece {n : Nat} (h : ipv6Piece cs = some n) (hc : c ∈ cs) :
    isIpv6Char c = true := by
  rw [ipv6Piece] at h
  split at h
  · cases h
  · rw [isIpv6Char, Text.isSome_hexValue_of_ofDigits h hc]
    rfl

theorem mem_of_plainByte {n : Nat} (h : plainByte cs = some n) (hc : c ∈ cs) :
    isIpv6Char c = true := by
  simp only [plainByte] at h
  split at h
  · cases h
  · simp only [Option.bind_eq_bind, Option.bind_eq_some_iff] at h
    obtain ⟨m, hm, _⟩ := h
    rw [isIpv6Char, Text.isSome_hexValue_of_ofDigits hm hc]
    rfl

/-- A text has the characters of its parts and of the separator. -/
theorem mem_of_splitAt (sep : Char) (hsep : isIpv6Char sep = true)
    (h : ∀ part ∈ splitAt sep cs, ∀ d ∈ part, isIpv6Char d = true) (hc : c ∈ cs) :
    isIpv6Char c = true := by
  rw [← Text.joinWith_splitAt sep cs] at hc
  obtain rfl | ⟨part, hp, hm⟩ := Text.mem_joinWith hc
  · exact hsep
  · exact h part hp c hm

theorem mem_of_ipv6Tail (h : ipv6Tail cs = some pieces) (hc : c ∈ cs) : isIpv6Char c = true := by
  rw [ipv6Tail] at h
  split at h
  · simp only [Option.bind_eq_bind, Option.bind_eq_some_iff] at h
    obtain ⟨bytes, hb, _⟩ := h
    refine mem_of_splitAt '.' (by decide) (fun part hp d hd => ?_) hc
    obtain ⟨n, _, hn⟩ := (Outcome.mapM_eq_some hb).2.2 part hp
    exact mem_of_plainByte hn hd
  · obtain ⟨n, hn, _⟩ := Option.map_eq_some_iff.mp h
    exact mem_of_ipv6Piece hn hc

theorem mem_of_ipv6Pieces {isEnd : Bool} (h : ipv6Pieces isEnd cs = some pieces) (hc : c ∈ cs) :
    isIpv6Char c = true := by
  rw [ipv6Pieces] at h
  split at h
  · rename_i he
    rw [List.isEmpty_iff.mp he] at hc
    cases hc
  · simp only [Option.bind_eq_bind, Option.bind_eq_some_iff] at h
    obtain ⟨front, hf, last, hl, _⟩ := h
    refine mem_of_splitAt ':' (by decide) (fun part hp d hd => ?_) hc
    rw [← List.dropLast_concat_getLast (Text.splitAt_ne_nil ':' cs), List.mem_append,
      List.mem_singleton] at hp
    obtain hp | rfl := hp
    · obtain ⟨n, _, hn⟩ := (Outcome.mapM_eq_some hf).2.2 part hp
      exact mem_of_ipv6Piece hn hd
    · rw [List.getLastD_eq_getLast?, List.getLast?_eq_some_getLast (Text.splitAt_ne_nil ':' cs),
        Option.getD_some] at hl
      cases isEnd with
      | true => exact mem_of_ipv6Tail hl hd
      | false =>
        obtain ⟨n, hn, _⟩ := Option.map_eq_some_iff.mp hl
        exact mem_of_ipv6Piece hn hd

theorem cutDoubleColon_eq_some {before after : List Char}
    (h : cutDoubleColon cs = some (before, after)) : cs = before ++ ':' :: ':' :: after := by
  fun_induction cutDoubleColon cs generalizing before with
  | case1 rest =>
    cases h
    rfl
  | case2 c rest _ ih =>
    obtain ⟨⟨b, a⟩, hb, he⟩ := Option.map_eq_some_iff.mp h
    cases he
    rw [ih hb, List.cons_append]
  | case3 => cases h

theorem mem_of_readIpv6 (h : readIpv6 cs = some pieces) (hc : c ∈ cs) : isIpv6Char c = true := by
  rw [readIpv6] at h
  split at h
  · simp only [Option.bind_eq_bind, Option.bind_eq_some_iff] at h
    obtain ⟨all, ha, _⟩ := h
    exact mem_of_ipv6Pieces ha hc
  · rename_i before after hcut
    simp only [Option.bind_eq_bind, Option.bind_eq_some_iff] at h
    obtain ⟨front, hf, back, hb, _⟩ := h
    rw [cutDoubleColon_eq_some hcut, List.mem_append, List.mem_cons, List.mem_cons] at hc
    obtain hc | rfl | rfl | hc := hc
    · exact mem_of_ipv6Pieces hf hc
    · decide
    · decide
    · exact mem_of_ipv6Pieces hb hc

end Conformance.Url
