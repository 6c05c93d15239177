import Mathlib.Data.List.Basic
import ClusterOperator.Proofs.Web.Uri

/-!
# A resource identifier is read in one way

Every part of an identifier ends at a mark that the part itself does not hold: a scheme at its
colon, an authority at a slash, a path at a question mark. So a text can be divided in one way only.
Within an authority this rests on the brackets: a host without them holds no colon, and the colon
that follows it is the one of the port. An address of groups is full of colons, and where it stands
without brackets there is nothing that the authority could be read as.

## Main results

* `Uri.divided_eq`: two divisions of a text at a mark agree.
* `Uri.Authority.Proper.eq_of_text_eq`: an authority is read in one way.
* `Uri.Authority.Proper.count_colon_le_one`: at most one colon stands in an authority without users
  and brackets.
* `Uri.Proper.parts`: a text with an authority is read with this authority.
* `Uri.ReadsAs.unique`: a text is read in one way.
-/

namespace ClusterOperator.Web

namespace Uri

/-! ### Dividing a text at its marks -/

/-- Two divisions of a text agree if the first parts hold no mark and the others start with one. -/
theorem divided_eq {isMark : Char → Bool} {xs xs' ys ys' : List Char}
    (hxs : ∀ c ∈ xs, isMark c = false) (hxs' : ∀ c ∈ xs', isMark c = false)
    (hys : ∀ c ∈ ys.head?, isMark c = true) (hys' : ∀ c ∈ ys'.head?, isMark c = true)
    (h : xs ++ ys = xs' ++ ys') : xs = xs' ∧ ys = ys' := by
  have hstop : ∀ {zs ws : List Char}, (∀ c ∈ zs, isMark c = false) →
      (∀ c ∈ ws.head?, isMark c = true) → (zs ++ ws).takeWhile (!isMark ·) = zs := by
    intro zs ws hzs hws
    rw [List.takeWhile_append_of_pos (by simpa using hzs)]
    cases ws with
    | nil => exact List.append_nil zs
    | cons w ws => rw [List.takeWhile_cons_of_neg (by simp [hws w rfl]), List.append_nil]
  have hfirst : xs = xs' := by rw [← hstop hxs hys, h, hstop hxs' hys']
  subst hfirst
  exact ⟨rfl, List.append_cancel_left h⟩

/-- Two divisions of a text at its first occurrence of a mark agree. -/
theorem divided_at {mark : Char} {xs xs' ys ys' : List Char} (hxs : mark ∉ xs) (hxs' : mark ∉ xs')
    (hys : ∀ c ∈ ys.head?, c = mark) (hys' : ∀ c ∈ ys'.head?, c = mark)
    (h : xs ++ ys = xs' ++ ys') : xs = xs' ∧ ys = ys' := by
  have hother : ∀ {zs : List Char}, mark ∉ zs → ∀ c ∈ zs, (c == mark) = false :=
    fun hzs c hc => beq_eq_false_iff_ne.mpr fun heq => hzs (heq ▸ hc)
  exact @divided_eq (· == mark) _ _ _ _ (hother hxs) (hother hxs')
    (fun c hc => beq_iff_eq.mpr (hys c hc)) (fun c hc => beq_iff_eq.mpr (hys' c hc)) h

theorem marked_injective {mark : Char} {x y : Option (List Char)}
    (h : marked mark x = marked mark y) : x = y := by
  cases x <;> cases y <;> simp_all [marked]

theorem head?_marked {mark : Char} {x : Option (List Char)} :
    ∀ c ∈ (marked mark x).head?, c = mark := by
  cases x <;> simp [marked]

/-! ### Hosts -/

variable {host host' : Host}

/-- The characters of a host without brackets. -/
theorem Host.Proper.forall_mem_of_bare (h : host.Proper) (bare : host.bracketed = false) :
    ∀ c ∈ host.text, isNameChar c = true ∨ c = '%' := by
  cases host with
  | ipv4 literal =>
    obtain ⟨bytes, h⟩ := h
    intro c hc
    obtain hdigit | rfl := h.forall_mem c hc
    · exact .inl (isNameChar_of_isHexDigit (isHexDigit_of_isDigit hdigit))
    · exact .inl (by decide)
  | name letters => exact h.1.forall_mem fun _ => isNameChar_of_isHexDigit
  | ipv6 _ | future _ => cases bare

/-- A host without brackets holds neither a colon nor a bracket. -/
theorem Host.Proper.notMem_of_bare (h : host.Proper) (bare : host.bracketed = false) :
    ':' ∉ host.text ∧ '[' ∉ host.text :=
  ⟨fun hc => absurd (h.forall_mem_of_bare bare _ hc) (by decide),
    fun hc => absurd (h.forall_mem_of_bare bare _ hc) (by decide)⟩

/-- A host in brackets is a literal between them. -/
theorem Host.Proper.text_of_bracketed (h : host.Proper) (bracketed : host.bracketed = true) :
    ∃ literal, host.text = '[' :: (literal ++ [']']) ∧ ∀ c ∈ literal, isUserChar c = true := by
  cases host with
  | ipv4 _ | name _ => cases bracketed
  | ipv6 literal =>
    exact ⟨literal, rfl, fun c hc =>
      isUserChar_of_isAddressChar (IsIpv6.isAddressChar_of_mem h c hc)⟩
  | future literal => exact ⟨literal, rfl, IsFuture.isUserChar_of_mem h⟩

/-- The characters of a host. -/
theorem Host.Proper.forall_mem (h : host.Proper) :
    ∀ c ∈ host.text, isUserChar c = true ∨ c ∈ ['%', '[', ']'] := by
  intro c hc
  cases hbracketed : host.bracketed with
  | false =>
    obtain hplain | rfl := h.forall_mem_of_bare hbracketed c hc
    · exact .inl (isUserChar_of_isNameChar hplain)
    · exact .inr (by decide)
  | true =>
    obtain ⟨literal, htext, hliteral⟩ := h.text_of_bracketed hbracketed
    rw [htext, List.mem_cons, List.mem_append, List.mem_singleton] at hc
    obtain rfl | hc | rfl := hc
    · exact .inr (by decide)
    · exact .inl (hliteral c hc)
    · exact .inr (by decide)

theorem Host.Proper.head?_eq_iff (h : host.Proper) (port : Option (List Char)) :
    (host.text ++ marked ':' port).head? = some '[' ↔ host.bracketed = true := by
  cases hkind : host.bracketed with
  | true =>
    obtain ⟨literal, htext, -⟩ := h.text_of_bracketed hkind
    rw [htext]
    exact iff_of_true rfl rfl
  | false =>
    refine iff_of_false (fun hhead => ?_) Bool.false_ne_true
    cases htext : host.text with
    | nil =>
      rw [htext] at hhead
      exact absurd (head?_marked _ hhead) (by decide)
    | cons c cs =>
      rw [htext] at hhead
      cases hhead
      exact (h.notMem_of_bare hkind).2 (htext ▸ List.mem_cons_self)

/-- A host and a port are read in one way. -/
theorem Host.Proper.divided (h : host.Proper) (h' : host'.Proper) {port port' : Option (List Char)}
    (heq : host.text ++ marked ':' port = host'.text ++ marked ':' port') :
    host.bracketed = host'.bracketed ∧ host.text = host'.text ∧ port = port' := by
  have hkind : host.bracketed = host'.bracketed := by
    rw [Bool.eq_iff_iff, ← h.head?_eq_iff port, ← h'.head?_eq_iff port', heq]
  refine ⟨hkind, ?_⟩
  cases hbracketed : host.bracketed with
  | false =>
    obtain ⟨htext, hmarked⟩ := divided_at (h.notMem_of_bare hbracketed).1
      (h'.notMem_of_bare (hkind ▸ hbracketed)).1 head?_marked head?_marked heq
    exact ⟨htext, marked_injective hmarked⟩
  | true =>
    obtain ⟨literal, htext, hliteral⟩ := h.text_of_bracketed hbracketed
    obtain ⟨literal', htext', hliteral'⟩ := h'.text_of_bracketed (hkind ▸ hbracketed)
    rw [htext, htext', List.cons_append, List.cons_append, List.append_assoc, List.append_assoc]
      at heq
    have hclosing : ∀ {cs : List Char}, (∀ c ∈ cs, isUserChar c = true) → ']' ∉ cs :=
      fun hcs hc => absurd (hcs _ hc) (by decide)
    obtain ⟨rfl, hmarked⟩ := divided_at (hclosing hliteral) (hclosing hliteral') (by simp) (by simp)
      (List.cons.inj heq).2
    exact ⟨htext.trans htext'.symm, marked_injective (List.cons.inj hmarked).2⟩

/-- The text of a host says which host it is. -/
theorem Host.Proper.eq_of_text_eq (h : host.Proper) (h' : host'.Proper)
    (hkind : host.bracketed = host'.bracketed) (htext : host.text = host'.text) :
    host = host' := by
  have hinner : ∀ {xs ys : List Char}, '[' :: (xs ++ [']']) = '[' :: (ys ++ [']']) → xs = ys :=
    fun heq => List.append_cancel_right (List.cons.inj heq).2
  cases host with
  | ipv4 literal =>
    cases host' with
    | ipv4 literal' => exact congrArg Host.ipv4 htext
    | name letters =>
      cases (htext : literal = letters)
      exact absurd h h'.2
    | ipv6 _ | future _ => cases hkind
  | name letters =>
    cases host' with
    | ipv4 literal' =>
      cases (htext : letters = literal')
      exact absurd h' h.2
    | name letters' => exact congrArg Host.name htext
    | ipv6 _ | future _ => cases hkind
  | ipv6 literal =>
    cases host' with
    | ipv6 literal' => exact congrArg Host.ipv6 (hinner htext)
    | future literal' =>
      cases hinner htext
      exact absurd h (IsFuture.not_isIpv6 h')
    | ipv4 _ | name _ => cases hkind
  | future literal =>
    cases host' with
    | ipv6 literal' =>
      cases hinner htext
      exact absurd h' (IsFuture.not_isIpv6 h)
    | future literal' => exact congrArg Host.future (hinner htext)
    | ipv4 _ | name _ => cases hkind

/-! ### Authorities -/

namespace Authority

variable {a b : Authority}

theorem Proper.port_forall_mem (h : a.Proper) :
    ∀ c ∈ marked ':' a.port, c.isDigit = true ∨ c = ':' := by
  cases hport : a.port with
  | none => exact List.forall_mem_nil _
  | some port =>
    exact List.forall_mem_cons.mpr ⟨.inr rfl, fun c hc => .inl (h.port port hport c hc)⟩

/-- The characters of an authority that follow the user. -/
theorem Proper.forall_mem (h : a.Proper) :
    ∀ c ∈ a.host.text ++ marked ':' a.port, isUserChar c = true ∨ c ∈ ['%', '[', ']'] := by
  refine List.forall_mem_append.mpr ⟨h.host.forall_mem, fun c hc => .inl ?_⟩
  obtain hdigit | rfl := h.port_forall_mem c hc
  · exact isUserChar_of_isHexDigit (isHexDigit_of_isDigit hdigit)
  · decide

theorem Proper.at_notMem (h : a.Proper) : '@' ∉ a.host.text ++ marked ':' a.port :=
  fun hc => absurd (h.forall_mem _ hc) (by decide)

theorem Proper.at_notMem_user (h : a.Proper) : ∀ cs ∈ a.user, '@' ∉ cs := fun cs hcs hat =>
  absurd ((h.user cs hcs).forall_mem (fun _ => isUserChar_of_isHexDigit) _ hat) (by decide)

/-- A user and what follows the at sign are read in one way. -/
theorem Proper.user_eq (ha : a.Proper) (hb : b.Proper) (h : a.text = b.text) :
    a.user = b.user ∧ a.host.text ++ marked ':' a.port = b.host.text ++ marked ':' b.port := by
  have hat : ∀ {cs rest : List Char}, cs ++ ['@'] ++ rest = cs ++ '@' :: rest := by simp
  unfold text at h
  cases hx : a.user with
  | none =>
    cases hy : b.user with
    | none =>
      rw [hx, hy] at h
      exact ⟨rfl, h⟩
    | some y =>
      rw [hx, hy] at h
      refine absurd ?_ ha.at_notMem
      rw [show a.host.text ++ marked ':' a.port = _ from h]
      simp
  | some x =>
    cases hy : b.user with
    | none =>
      rw [hx, hy] at h
      refine absurd ?_ hb.at_notMem
      rw [show b.host.text ++ marked ':' b.port = _ from h.symm]
      simp
    | some y =>
      rw [hx, hy] at h
      replace h : x ++ '@' :: _ = y ++ '@' :: _ := hat.symm.trans (h.trans hat)
      obtain ⟨rfl, -, hrest⟩ := (List.append_cons_inj_of_notMem
        (ha.at_notMem_user x hx) ha.at_notMem).mp h
      exact ⟨rfl, hrest⟩

/-- An authority is read in one way. -/
theorem Proper.eq_of_text_eq (ha : a.Proper) (hb : b.Proper) (h : a.text = b.text) : a = b := by
  obtain ⟨huser, hrest⟩ := ha.user_eq hb h
  obtain ⟨hkind, htext, hport⟩ := ha.host.divided hb.host hrest
  exact Authority.ext huser (ha.host.eq_of_text_eq hb.host hkind htext) hport

/-- At most one colon stands in an authority without users and brackets. -/
theorem Proper.count_colon_le_one (h : a.Proper) (huser : '@' ∉ a.text)
    (hbracket : '[' ∉ a.text) : a.text.count ':' ≤ 1 := by
  have hnone : a.user = none := by
    cases hx : a.user with
    | none => rfl
    | some x => exact absurd (by rw [text, hx]; simp) huser
  have hbare : a.host.bracketed = false := by
    cases hkind : a.host.bracketed with
    | false => rfl
    | true =>
      obtain ⟨literal, htext, -⟩ := h.host.text_of_bracketed hkind
      exact absurd (by rw [text, htext]; simp) hbracket
  have hhost : a.host.text.count ':' = 0 :=
    List.count_eq_zero.mpr (h.host.notMem_of_bare hbare).1
  have hport : (marked ':' a.port).count ':' ≤ 1 := by
    cases hx : a.port with
    | none => exact Nat.zero_le _
    | some port =>
      have hdigits : port.count ':' = 0 := List.count_eq_zero.mpr fun hc =>
        absurd (h.port port hx _ hc) (by decide)
      exact Nat.le_of_eq (by rw [marked, List.count_cons_self, hdigits])
  rw [text, hnone]
  show (a.host.text ++ marked ':' a.port).count ':' ≤ 1
  rw [List.count_append, hhost, Nat.zero_add]
  exact hport

/-- The characters of an authority. -/
theorem Proper.forall_mem_text (h : a.Proper) :
    ∀ c ∈ a.text, isUserChar c = true ∨ c ∈ ['%', '[', ']', '@'] := by
  refine List.forall_mem_append.mpr ⟨?_, fun c hc =>
    (h.forall_mem c hc).imp_right fun hm => List.mem_append_left ['@'] hm⟩
  cases hx : a.user with
  | none => exact List.forall_mem_nil _
  | some x =>
    refine List.forall_mem_append.mpr ⟨fun c hc => ?_, fun c hc => ?_⟩
    · refine ((h.user x hx).forall_mem (fun _ => isUserChar_of_isHexDigit) c hc).imp_right ?_
      rintro rfl
      decide
    · rw [List.mem_singleton.mp hc]
      decide

/-- What follows an authority starts with a mark that no authority holds. -/
theorem Proper.not_endsAuthority (h : a.Proper) : ∀ c ∈ a.text, endsAuthority c = false := by
  intro c hc
  have hall := h.forall_mem_text c hc
  rw [endsAuthority, Bool.or_eq_false_iff, Bool.or_eq_false_iff]
  refine ⟨⟨?_, ?_⟩, ?_⟩ <;> (refine beq_eq_false_iff_ne.mpr ?_; rintro rfl; revert hall; decide)

end Authority

/-! ### Identifiers -/

variable {u v : Uri}

theorem Proper.colon_notMem_scheme (h : u.Proper) : ':' ∉ u.scheme := by
  obtain ⟨c, rest, heq, hc, hrest⟩ := h.scheme
  rw [heq]
  intro hcolon
  rcases List.mem_cons.mp hcolon with rfl | hcolon
  · revert hc; decide
  · exact absurd (hrest _ hcolon) (by decide)

theorem isPathChar_of_isHexDigit {c : Char} (h : isHexDigit c = true) : isPathChar c = true := by
  rw [isPathChar, isUserChar_of_isHexDigit h, Bool.true_or, Bool.true_or]

theorem isQueryChar_of_isHexDigit {c : Char} (h : isHexDigit c = true) : isQueryChar c = true := by
  rw [isQueryChar, isPathChar_of_isHexDigit h, Bool.true_or]

/-- What follows the path starts with a mark that no path holds. -/
def endsPath (c : Char) : Bool := c == '?' || c == '#'

/-- What follows the path. -/
def afterPath (u : Uri) : List Char := marked '?' u.query ++ marked '#' u.fragment

theorem head?_afterPath : ∀ c ∈ u.afterPath.head?, endsPath c = true := by
  unfold afterPath
  cases u.query <;> cases u.fragment <;> simp [marked, endsPath]

theorem Proper.not_endsPath (h : u.Proper) : ∀ c ∈ u.path, endsPath c = false := by
  intro c hc
  have hall := h.path.forall_mem (fun _ => isPathChar_of_isHexDigit) c hc
  rw [endsPath, Bool.or_eq_false_iff]
  refine ⟨?_, ?_⟩ <;> (refine beq_eq_false_iff_ne.mpr ?_; rintro rfl; revert hall; decide)

theorem Proper.notMem_query (h : u.Proper) : '#' ∉ marked '?' u.query := by
  cases hquery : u.query with
  | none => exact List.not_mem_nil
  | some query =>
    intro hc
    rcases List.mem_cons.mp hc with hc | hc
    · revert hc; decide
    · exact absurd ((h.query query hquery).forall_mem (fun _ => isQueryChar_of_isHexDigit) _ hc)
        (by decide)

/-- The query and the fragment are read in one way. -/
theorem Proper.afterPath_injective (hu : u.Proper) (hv : v.Proper) (h : u.afterPath = v.afterPath) :
    u.query = v.query ∧ u.fragment = v.fragment := by
  obtain ⟨hquery, hfragment⟩ := divided_at hu.notMem_query hv.notMem_query head?_marked
    head?_marked h
  exact ⟨marked_injective hquery, marked_injective hfragment⟩

/-- The path, the query and the fragment are read in one way. -/
theorem Proper.afterAuthority_injective (hu : u.Proper) (hv : v.Proper)
    (h : u.afterAuthority = v.afterAuthority) :
    u.path = v.path ∧ u.query = v.query ∧ u.fragment = v.fragment := by
  obtain ⟨hpath, hrest⟩ := divided_eq hu.not_endsPath hv.not_endsPath head?_afterPath
    head?_afterPath h
  exact ⟨hpath, hu.afterPath_injective hv hrest⟩

/-- Where an authority stands, what follows it does not go on with its characters. -/
theorem Proper.head?_afterAuthority (h : u.Proper) (hauthority : u.authority.isSome = true) :
    ∀ c ∈ u.afterAuthority.head?, endsAuthority c = true := by
  intro c hc
  cases hpath : u.path with
  | nil =>
    rw [afterAuthority, hpath, List.nil_append] at hc
    have hends := head?_afterPath c hc
    rw [endsPath] at hends
    rw [endsAuthority, Bool.or_assoc, hends, Bool.or_true]
  | cons d rest =>
    rw [afterAuthority, hpath] at hc
    cases hc
    rw [h.rooted hauthority c (by rw [hpath]; rfl)]
    decide

/-- Without an authority no two slashes follow the scheme. -/
theorem Proper.afterAuthority_ne (h : u.Proper) (hauthority : u.authority = none)
    (rest : List Char) : u.afterAuthority ≠ '/' :: '/' :: rest := by
  have hmark : ∀ {cs : List Char}, u.afterPath ≠ '/' :: cs := fun heq =>
    absurd (head?_afterPath (u := u) '/' (by rw [heq]; rfl)) (by decide)
  rw [show u.afterAuthority = u.path ++ u.afterPath from rfl]
  intro heq
  cases hpath : u.path with
  | nil =>
    rw [hpath] at heq
    exact hmark heq
  | cons c steps =>
    rw [hpath] at heq
    obtain ⟨rfl, hrest⟩ := List.cons.inj heq
    cases steps with
    | nil => exact hmark hrest
    | cons d steps =>
      obtain ⟨rfl, -⟩ := List.cons.inj hrest
      exact h.single hauthority steps hpath

/-- The scheme and what follows its colon are read in one way. -/
theorem scheme_divided {scheme scheme' rest rest' : List Char} (hs : ':' ∉ scheme)
    (hs' : ':' ∉ scheme') (h : scheme ++ ':' :: rest = scheme' ++ ':' :: rest') :
    scheme = scheme' ∧ rest = rest' := by
  obtain ⟨hscheme, hrest⟩ := divided_at hs hs' (by simp) (by simp) h
  exact ⟨hscheme, (List.cons.inj hrest).2⟩

/-- A text with an authority is read with this authority. -/
theorem Proper.parts {scheme authority rest : List Char} (h : u.Proper) (hscheme : ':' ∉ scheme)
    (hauthority : ∀ c ∈ authority, endsAuthority c = false)
    (hrest : ∀ c ∈ rest.head?, endsAuthority c = true)
    (htext : u.text = scheme ++ ':' :: '/' :: '/' :: (authority ++ rest)) :
    u.scheme = scheme ∧ (∃ a, u.authority = some a ∧ a.text = authority) ∧
      u.afterAuthority = rest := by
  obtain ⟨hs, hafter⟩ := scheme_divided h.colon_notMem_scheme hscheme htext
  cases ha : u.authority with
  | none =>
    rw [ha] at hafter
    exact absurd hafter (h.afterAuthority_ne ha _)
  | some a =>
    rw [ha] at hafter
    obtain ⟨-, hafter⟩ := List.cons.inj hafter
    obtain ⟨-, hafter⟩ := List.cons.inj hafter
    obtain ⟨htext, hafter⟩ := divided_eq (h.authority a ha).not_endsAuthority hauthority
      (h.head?_afterAuthority (by rw [ha]; rfl)) hrest hafter
    exact ⟨hs, ⟨a, rfl, htext⟩, hafter⟩

/-- The text of an identifier with an authority. -/
theorem text_of_authority {a : Authority} (h : u.authority = some a) :
    u.text = u.scheme ++ ':' :: '/' :: '/' :: (a.text ++ u.afterAuthority) := by
  rw [text, h]
  rfl

/-- An identifier with an authority is the only one with its text. -/
theorem Proper.eq_of_authority {a : Authority} (hu : u.Proper) (hv : v.Proper)
    (h : u.text = v.text) (ha : v.authority = some a) : u = v := by
  have hproper := hv.authority a ha
  obtain ⟨hscheme, ⟨b, hb, htext⟩, hafter⟩ := hu.parts hv.colon_notMem_scheme
    hproper.not_endsAuthority (hv.head?_afterAuthority (by rw [ha]; rfl))
    (h.trans (text_of_authority ha))
  obtain ⟨hpath, hquery, hfragment⟩ := hu.afterAuthority_injective hv hafter
  have hauthority : u.authority = v.authority := by
    rw [hb, ha, (hu.authority b hb).eq_of_text_eq hproper htext]
  exact Uri.ext hscheme hauthority hpath hquery hfragment

/-- A text is read in one way. -/
theorem ReadsAs.unique {s : String} (hu : ReadsAs s u) (hv : ReadsAs s v) : u = v := by
  have htext := hu.2.trans hv.2.symm
  cases hb : v.authority with
  | some b => exact hu.1.eq_of_authority hv.1 htext hb
  | none =>
    cases ha : u.authority with
    | some a => exact (hv.1.eq_of_authority hu.1 htext.symm ha).symm
    | none =>
      rw [text, text, ha, hb] at htext
      obtain ⟨hscheme, hafter⟩ := scheme_divided hu.1.colon_notMem_scheme
        hv.1.colon_notMem_scheme htext
      obtain ⟨hpath, hquery, hfragment⟩ := hu.1.afterAuthority_injective hv.1 hafter
      exact Uri.ext hscheme (ha.trans hb.symm) hpath hquery hfragment

end Uri

end ClusterOperator.Web
