import ClusterOperator.Proofs.Web.Uri
import ClusterOperator.Web.Url
import Mathlib.Data.List.TakeWhile

/-!
# How the client reads the host of a URL

A text that follows the scheme is divided into an authority and a path, and where no user and no
brackets stand, the first colon of the authority ends the host. The client takes more texts for
hosts than the grammar does. An address of four bytes in the form of the grammar goes through all
its steps unchanged: it holds no escapes, it is a name of plain letters, its last part is a number,
and its parts are the bytes. The host is the number that the bytes stand for, and it is written as
the same text.

## Main definitions

* `Ipv4.value`: the number that bytes stand for.

## Main results

* `Url.parse_of_parts`: the URL of an authority and a path.
* `Url.splitHost_of_bare`: the host ends at the first colon.
* `Url.ofUtf8?_utf8`: the bytes of a text are read back.
* `Url.parseHost_of_isIpv4`: the host of a literal.
* `Ipv4.text_value`: the text of the host is the literal.
-/

namespace ClusterOperator.Web

/-- The pieces between occurrences of a character are those that core's splitting gives. -/
theorem pieces_eq_splitOn (mark : Char) (cs : List Char) :
    pieces (· == mark) cs = cs.splitOn mark := by
  induction cs with
  | nil => rfl
  | cons c cs ih =>
    rw [List.splitOn_cons_eq_if_modifyHead, ← ih, pieces]
    by_cases hc : (c == mark) = true
    · rw [if_pos hc, if_pos hc]
    · rw [if_neg hc, if_neg hc]
      cases hpieces : pieces (· == mark) cs with
      | nil => exact absurd (ih.symm.trans hpieces) (List.splitOn_ne_nil _ _)
      | cons piece more => rfl

/-! ### The authority and the path -/

namespace Url

theorem not_isSlash_of_not_endsAuthority {c : Char} (h : endsAuthority c = false) :
    isSlash c = false := by
  rw [endsAuthority, Bool.or_assoc] at h
  exact (Bool.or_eq_false_iff.mp h).1

/-- A text of an authority and a path that starts with a slash is divided there. -/
theorem parse_of_parts {s : String} {authority path : List Char}
    (htext : s.toList = authority ++ '/' :: path) (hne : authority ≠ [])
    (hdropped : ∀ c ∈ s.toList, isDropped c = false)
    (hends : ∀ c ∈ authority, endsAuthority c = false)
    (hpath : ∀ c ∈ path, (c != '?' && c != '#') = true) :
    parse s = (do
      let host ← parseHost (splitHost false (afterUser authority)).1
      let port ← parsePort ((splitHost false (afterUser authority)).2.drop 1)
      return { host, port, path := parsePath ('/' :: path), query := none, fragment := none }) := by
  have hkept : s.toList.filter (fun c => !isDropped c) = authority ++ '/' :: path := by
    rw [← htext]
    exact List.filter_eq_self.mpr fun c hc => by rw [hdropped c hc]; rfl
  have hslash : (authority ++ '/' :: path).dropWhile isSlash = authority ++ '/' :: path := by
    obtain ⟨c, cs, rfl⟩ := List.exists_cons_of_ne_nil hne
    exact List.dropWhile_cons_of_neg (Bool.eq_false_iff.mp
      (not_isSlash_of_not_endsAuthority (hends c List.mem_cons_self)))
  have hall : ∀ c ∈ authority, (!endsAuthority c) = true := fun c hc => by rw [hends c hc]; rfl
  have hstop : ('/' :: path).takeWhile (fun c => !endsAuthority c) = [] := rfl
  have hfrom : ('/' :: path).dropWhile (fun c => !endsAuthority c) = '/' :: path := rfl
  have hwhole : ∀ c ∈ '/' :: path, (c != '?' && c != '#') = true :=
    List.forall_mem_cons.mpr ⟨by decide, hpath⟩
  unfold parse
  dsimp only
  rw [hkept, hslash, List.takeWhile_append_of_pos hall, List.dropWhile_append_of_pos hall,
    hstop, hfrom, List.append_nil, List.takeWhile_eq_self_iff.mpr hwhole,
    List.dropWhile_eq_nil_iff.mpr hwhole]
  rfl

theorem afterUser_of_notMem {cs : List Char} (h : '@' ∉ cs) : afterUser cs = cs := by
  have hall : ∀ c ∈ cs.reverse, decide (c ≠ '@') = true := fun c hc =>
    decide_eq_true fun heq => h (heq ▸ List.mem_reverse.mp hc)
  rw [afterUser, List.takeWhile_eq_self_iff.mpr hall, List.reverse_reverse]

/-- Without brackets the first colon ends the host. -/
theorem splitHost_of_bare {cs rest : List Char} (h : ∀ c ∈ cs, c ≠ ':' ∧ c ≠ '[' ∧ c ≠ ']') :
    splitHost false (cs ++ ':' :: rest) = (cs, ':' :: rest) := by
  induction cs with
  | nil => rfl
  | cons c cs ih =>
    obtain ⟨⟨hcolon, hopen, hclose⟩, hcs⟩ := List.forall_mem_cons.mp h
    rw [List.cons_append, splitHost, if_neg fun hboth => hcolon hboth.1, if_neg hopen,
      if_neg hclose]
    dsimp only
    rw [ih hcs]

end Url

theorem ofDigits?_of_colon {cs : List Char} (h : ':' ∈ cs) : ofDigits? 10 cs = none := by
  obtain ⟨left, right, rfl⟩ := List.append_of_mem h
  have hdigit : Percent.digitValue? ':' = none := by decide
  rw [ofDigits?, List.foldlM_append]
  cases List.foldlM (m := Option) _ 0 left with
  | none => rfl
  | some n =>
    rw [Option.bind_eq_bind, Option.bind_some, List.foldlM_cons, hdigit]
    rfl

/-- A text with a colon is no port. -/
theorem Url.parsePort_of_colon {cs : List Char} (h : ':' ∈ cs) :
    parsePort cs = .error .badPort := by
  rw [parsePort, if_neg fun hempty => List.not_mem_nil (List.isEmpty_iff.mp hempty ▸ h),
    ofDigits?_of_colon h]

/-! ### Letters -/

theorem Percent.decode_of_notMem {cs : List Char} (h : '%' ∉ cs) :
    Percent.decode cs = Percent.utf8 cs := by
  induction cs with
  | nil => rfl
  | cons c cs ih =>
    obtain ⟨hc, hcs⟩ := not_or.mp fun hmem => h (List.mem_cons.mpr hmem)
    have hstep : Percent.decode (c :: cs) = String.utf8EncodeChar c ++ Percent.decode cs := by
      rw [Percent.decode]
      exact fun high low rest heq _ => hc heq.symm
    rw [hstep, ih hcs]
    rfl

namespace Url

/-- The bytes of a text are read back. -/
theorem ofUtf8?_utf8 (cs : List Char) : ofUtf8? (Percent.utf8 cs) = some cs := by
  have hbytes : (⟨(Percent.utf8 cs).toArray⟩ : ByteArray) = (String.ofList cs).toByteArray := by
    rw [String.toByteArray_ofList, List.utf8Encode, ByteArray.ext_iff, ← Array.toList_inj,
      List.toList_data_toByteArray]
    rfl
  have hread : String.fromUTF8? (String.ofList cs).toByteArray = some (String.ofList cs) :=
    dif_pos (String.ofList cs).isValidUTF8
  rw [ofUtf8?, hbytes, hread, Option.map_some, String.toList_ofList]

end Url

section

variable {cs : List Char} {bytes : List Nat}

theorem isDigit_of_mem_toDigits {b : Nat} : ∀ c ∈ Nat.toDigits 10 b, c.isDigit = true :=
  fun _ hc => Nat.isDigit_of_mem_toDigits (by decide) (by decide) hc

/-- The pieces of a literal between its points are the digits of its bytes. -/
theorem Uri.IsIpv4.pieces_eq (h : Uri.IsIpv4 cs bytes) :
    pieces (· == '.') cs = bytes.map (Nat.toDigits 10) := by
  obtain ⟨hlength, -, rfl⟩ := h
  have hpoints : ∀ piece ∈ bytes.map (Nat.toDigits 10), '.' ∉ piece := by
    intro piece hpiece hpoint
    obtain ⟨b, -, rfl⟩ := List.mem_map.mp hpiece
    exact absurd (isDigit_of_mem_toDigits '.' hpoint) (by decide)
  rw [pieces_eq_splitOn]
  refine List.splitOn_intercalate '.' hpoints fun heq => ?_
  rw [List.map_eq_nil_iff.mp heq] at hlength
  cases hlength

namespace Domain

/-- The letters of a literal. -/
def plainLetters : List Char := ['0', '1', '2', '3', '4', '5', '6', '7', '8', '9', '.']

theorem mem_plainLetters {c : Char} (h : c.isDigit = true ∨ c = '.') : c ∈ plainLetters := by
  rcases h with hdigit | rfl
  · have hall : ∀ k < 10, Char.ofNat (48 + k) ∈ plainLetters := by decide
    have hbounds : 48 ≤ c.toNat ∧ c.toNat ≤ 57 := Char.isDigit_iff_toNat.mp hdigit
    have hmem := hall (c.toNat - 48) (by omega)
    rwa [show 48 + (c.toNat - 48) = c.toNat by omega, Char.ofNat_toNat] at hmem
  · decide

theorem mapped_plain : ∀ c ∈ plainLetters, mapped c = [c] := by
  have hall : plainLetters.all (fun c => mapped c == [c]) = true := by decide
  simpa using hall

theorem isForbidden_plain : ∀ c ∈ plainLetters, isForbidden c = false := by
  simp [plainLetters, isForbidden, String.contains_char_eq]

theorem encodeLabel_toDigits (b : Nat) :
    encodeLabel (Nat.toDigits 10 b) = Nat.toDigits 10 b := by
  have hascii : plainLetters.all (fun c => c.toNat < 128) = true := by decide
  exact if_pos (List.all_eq_true.mpr fun c hc => List.all_eq_true.mp hascii c
    (mem_plainLetters (.inl (isDigit_of_mem_toDigits c hc))))

/-- As a name a literal is sent as it is. -/
theorem normalize_of_isIpv4 (h : Uri.IsIpv4 cs bytes) : normalize cs = .ok cs := by
  have hplain : ∀ c ∈ cs, c ∈ plainLetters := fun c hc => mem_plainLetters (h.forall_mem c hc)
  have hmapped : cs.flatMap mapped = cs := by
    rw [List.flatMap_def, List.map_congr_left fun c hc => mapped_plain c (hplain c hc),
      ← List.flatMap_def, List.flatMap_singleton']
  have hallowed : cs.any isForbidden = false := List.any_eq_false.mpr fun c hc =>
    Bool.eq_false_iff.mp (isForbidden_plain c (hplain c hc))
  have hlabels : (bytes.map (Nat.toDigits 10)).map encodeLabel = bytes.map (Nat.toDigits 10) := by
    rw [List.map_map]
    exact List.map_congr_left fun b _ => encodeLabel_toDigits b
  rw [normalize, hmapped, hallowed, h.pieces_eq, hlabels, ← h.2.2]
  rfl

end Domain

namespace Ipv4

/-- The number that bytes stand for, the first one the highest. -/
def value (bytes : List Nat) : Nat := bytes.foldl (fun n b => n * 256 + b) 0

theorem number?_toDigits : ∀ b < 256, number? (Nat.toDigits 10 b) = some b := by decide +kernel

theorem parts_of_isIpv4 (h : Uri.IsIpv4 cs bytes) : parts cs = bytes.map (Nat.toDigits 10) := by
  have hlast : (bytes.map (Nat.toDigits 10)).getLast? ≠ some [] := fun hlast => by
    obtain ⟨b, -, heq⟩ := List.mem_map.mp (List.mem_of_getLast? hlast)
    exact Nat.toDigits_ne_nil heq
  rw [parts, h.pieces_eq]
  exact if_neg fun hboth => hlast hboth.1

/-- A literal is read as a number. -/
theorem endsInNumber_of_isIpv4 (h : Uri.IsIpv4 cs bytes) : endsInNumber cs = true := by
  rw [endsInNumber, parts_of_isIpv4 h, List.getLast?_map]
  cases hlast : bytes.getLast? with
  | none =>
    have hlength := h.1
    rw [List.getLast?_eq_none_iff.mp hlast] at hlength
    cases hlength
  | some b =>
    show ((!(Nat.toDigits 10 b).isEmpty && (Nat.toDigits 10 b).all Char.isDigit) ||
      (number? (Nat.toDigits 10 b)).isSome) = true
    rw [number?_toDigits b (h.2.1 b (List.mem_of_getLast? hlast))]
    exact Bool.or_true _

theorem exists_bytes (h : Uri.IsIpv4 cs bytes) :
    ∃ a b c d, bytes = [a, b, c, d] ∧ (a < 256 ∧ b < 256 ∧ c < 256 ∧ d < 256) := by
  obtain ⟨hlength, hbytes, -⟩ := h
  match bytes, hlength with
  | [a, b, c, d], _ => exact ⟨a, b, c, d, rfl, by simpa using hbytes⟩

/-- Four bytes are put together to the number that they stand for. -/
theorem assemble_four {a b c d : Nat} (ha : a < 256) (hb : b < 256) (hc : c < 256) (hd : d < 256) :
    assemble 4 [a, b, c, d] = some (value [a, b, c, d]) := by
  have hpow : Nat.pow 256 3 = 16777216 ∧ Nat.pow 256 2 = 65536 ∧ Nat.pow 256 1 = 256 := by decide
  simp only [assemble, Nat.add_one_sub_one, hpow]
  rw [if_pos (by omega), if_pos (by omega), if_pos (by omega), if_pos hd]
  simp [value]
  omega

/-- A literal is read as the number that its bytes stand for. -/
theorem parse_of_isIpv4 (h : Uri.IsIpv4 cs bytes) : parse cs = .ok (value bytes) := by
  obtain ⟨a, b, c, d, rfl, ha, hb, hc, hd⟩ := exists_bytes h
  have hnumbers : ([a, b, c, d].map (Nat.toDigits 10)).mapM number? = some [a, b, c, d] := by
    simp [number?_toDigits, ha, hb, hc, hd]
  rw [parse, parts_of_isIpv4 h, hnumbers]
  show (if 4 < [a, b, c, d].length then _ else _) = _
  rw [if_neg (by simp), assemble_four ha hb hc hd]
  rfl

theorem text_eq (address : Nat) : text address = String.intercalate "."
    (([16777216, 65536, 256, 1].map fun unit => address / unit % 256).map Nat.repr) := by
  rw [text, List.map_map]
  rfl

/-- The number that bytes stand for is written as their literal. -/
theorem text_value (h : Uri.IsIpv4 cs bytes) : (text (value bytes)).toList = cs := by
  obtain ⟨a, b, c, d, rfl, ha, hb, hc, hd⟩ := exists_bytes h
  have hbytes : [16777216, 65536, 256, 1].map (fun unit => value [a, b, c, d] / unit % 256) =
      [a, b, c, d] := by
    simp [value]
    omega
  have hdigits : ([a, b, c, d].map Nat.repr).map String.toList =
      [a, b, c, d].map (Nat.toDigits 10) := by
    rw [List.map_map]
    exact List.map_congr_left fun n _ => Nat.toList_repr
  rw [text_eq, hbytes, String.toList_intercalate, hdigits, h.2.2]
  rfl

end Ipv4

/-- The host of a literal is the number that its bytes stand for. -/
theorem Url.parseHost_of_isIpv4 (h : Uri.IsIpv4 cs bytes) :
    parseHost cs = .ok (.ipv4 (Ipv4.value bytes)) := by
  have hne : cs.isEmpty = false := by
    cases cs with
    | nil =>
      have hends := Ipv4.endsInNumber_of_isIpv4 h
      revert hends
      decide
    | cons c cs => rfl
  have hdecoded : ofUtf8? (Percent.decode cs) = some cs := by
    rw [Percent.decode_of_notMem fun hc => absurd (h.forall_mem '%' hc) (by decide), ofUtf8?_utf8]
  unfold parseHost
  split
  · cases hne
  · exact absurd (h.forall_mem '[' List.mem_cons_self) (by decide)
  · rw [hdecoded]
    dsimp only
    rw [Domain.normalize_of_isIpv4 h]
    show (if cs.isEmpty then _ else if Ipv4.endsInNumber cs then (do
      return Host.ipv4 (← Ipv4.parse cs)) else _) = _
    rw [hne, Ipv4.endsInNumber_of_isIpv4 h, Ipv4.parse_of_isIpv4 h]
    rfl

end

end ClusterOperator.Web
