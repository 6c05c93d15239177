import ClusterOperator.Proofs.Health.Reported
import ClusterOperator.Proofs.Web.Literals
import ClusterOperator.Proofs.Web.Reading

/-!
# Which addresses a server is asked at

The address of a pod is put into the text of a URL as it is. For an address of four bytes that is
the URL of this host, this port and this path, for the grammar and for the client alike, and another
address has another URL. An address of groups would have to stand in brackets: without them no
reading of the text is left, the client refuses it too, and such a server is never asked. In
brackets the text would be read with the address as its host.

## Main definitions

* `NodeProbe.statusAt`: where the state of a server is told, for any host.
* `NodeProbe.statusUrl`: the same for the client.

## Main results

* `NodeProbe.readsAs_statusAt`: the text of the URL for a host.
* `NodeProbe.not_readsAs_of_isIpv6`: the text for an address of groups is not read at all.
* `NodeProbe.url_of_literal`: what the URL for an address is read as.
-/

namespace ClusterOperator.NodeProbe

open Web (Uri)

/-- Where the state of a server is told. -/
def statusAt (host : Uri.Host) : Uri where
  scheme := ['h', 't', 't', 'p']
  authority := some { user := none, host, port := some port.repr.toList }
  path := path.toList
  query := none
  fragment := none

/-- The steps of the path at which servers are asked. -/
def steps : List String := ["nacos", "v1", "core", "cluster", "nodes"]

/-- Where the client asks for the state of a server. -/
def statusUrl (address : Nat) : Web.Url where
  host := .ipv4 address
  port := some port
  path := steps
  query := none
  fragment := none

/-! ### By the grammar -/

theorem toList_urlText (address : String) :
    (urlText address).toList = ['h', 't', 't', 'p'] ++ ':' :: '/' :: '/' ::
      ((address.toList ++ ':' :: port.repr.toList) ++ path.toList) := by
  have hscheme : Web.Url.schemeText.toList = ['h', 't', 't', 'p', ':', '/', '/'] := by decide
  rw [urlText, afterScheme, String.toList_append, String.toList_append, String.toList_append,
    String.toList_append, hscheme]
  simp

theorem urlText_injective {address other : String} (h : urlText other = urlText address) :
    other = address := by
  have hlist := congrArg String.toList h
  rw [toList_urlText, toList_urlText, List.append_assoc, List.append_assoc] at hlist
  rw [← String.toList_inj]
  simpa using hlist

theorem head?_path : path.toList.head? = some '/' := by decide

theorem statusAt_proper {host : Uri.Host} (h : host.Proper) : (statusAt host).Proper where
  scheme := ⟨'h', ['t', 't', 'p'], rfl, by decide, List.all_eq_true.mp (by decide)⟩
  authority a ha := by
    cases ha
    have hdigits : ∀ c ∈ port.repr.toList, c.isDigit = true := List.all_eq_true.mp (by decide)
    refine ⟨fun cs hcs => ?_, h, fun cs hcs => ?_⟩
    · cases hcs
    · cases hcs
      exact hdigits
  path := .of_all (List.all_eq_true.mp (show path.toList.all Uri.isPathChar = true by decide))
  rooted _ c hc := Option.some.inj (hc.symm.trans head?_path)
  single hnone := by cases hnone
  query _ hcs := by cases hcs
  fragment _ hcs := by cases hcs

/-- The text of the URL for a host. -/
theorem readsAs_statusAt {host : Uri.Host} {address : String} (h : host.Proper)
    (htext : host.text = address.toList) : Uri.ReadsAs (urlText address) (statusAt host) := by
  refine ⟨statusAt_proper h, ?_⟩
  rw [toList_urlText, ← htext]
  simp [Uri.text, statusAt, Uri.Authority.text, Uri.afterAuthority, Uri.marked]

theorem readsAs_iff {host : Uri.Host} {address : String} (h : host.Proper)
    (htext : host.text = address.toList) (u : Uri) :
    Uri.ReadsAs (urlText address) u ↔ u = statusAt host := by
  constructor
  · exact fun hu => hu.unique (readsAs_statusAt h htext)
  · rintro rfl
    exact readsAs_statusAt h htext

/-- What stands between the scheme and the path of the URL for an address. -/
def placeText (address : String) : List Char := address.toList ++ ':' :: port.repr.toList

variable {address : String}

theorem isAddressChar_of_mem_placeText (h : ∀ c ∈ address.toList, Uri.isAddressChar c = true) :
    ∀ c ∈ placeText address, Uri.isAddressChar c = true :=
  List.forall_mem_append.mpr ⟨h, List.all_eq_true.mp (by decide)⟩

/-- The text for an address of groups without brackets is not read at all: too many colons stand
where the authority would be. -/
theorem not_readsAs_of_isIpv6 (h : Uri.IsIpv6 address.toList) (u : Uri) :
    ¬ Uri.ReadsAs (urlText address) u := by
  rintro ⟨hproper, htext⟩
  have hchars := isAddressChar_of_mem_placeText h.isAddressChar_of_mem
  have hends : ∀ c ∈ placeText address, Uri.endsAuthority c = false := fun c hc => by
    have hne : ∀ {d : Char}, Uri.isAddressChar d = false → c ≠ d :=
      Uri.ne_of_isAddressChar (hchars c hc)
    simp [Uri.endsAuthority, hne (d := '/') (by decide), hne (d := '?') (by decide),
      hne (d := '#') (by decide)]
  have hmark : ∀ {d : Char}, Uri.isAddressChar d = false → d ∉ placeText address :=
    fun hd hmem => Uri.ne_of_isAddressChar (hchars _ hmem) hd rfl
  obtain ⟨-, ⟨a, ha, hauthority⟩, -⟩ := hproper.parts (by decide) hends
    (fun c hc => by rw [Option.some.inj (hc.symm.trans head?_path)]; decide)
    (htext.trans (toList_urlText address))
  have hcount := (hproper.authority a ha).count_colon_le_one
    (hauthority ▸ hmark (by decide)) (hauthority ▸ hmark (by decide))
  rw [hauthority, placeText, List.count_append, List.count_cons_self] at hcount
  have := h.two_le_count_colon
  omega

/-! ### By the client -/

theorem parsePath_path : Web.Url.parsePath path.toList = steps := by
  have hwalk : Web.Url.walk [] (Web.pieces Web.Url.isSlash (path.toList.drop 1)) =
      steps.map String.toList := by decide
  have hplain : ∀ step ∈ steps, Web.Url.escaped "\"#<>?`\x7b\x7d" step.toList = step := by
    simp [steps, Web.Url.escaped, Percent.encode, Web.Url.isPlainBut, String.contains_char_eq]
  calc Web.Url.parsePath path.toList
      = (Web.Url.walk [] (Web.pieces Web.Url.isSlash (path.toList.drop 1))).map
          (Web.Url.escaped "\"#<>?`\x7b\x7d") := rfl
    _ = steps := by
        rw [hwalk, List.map_map]
        exact (List.map_congr_left hplain).trans (List.map_id _)

/-- The client takes the host and the port of the URL for an address from the same text. -/
theorem parse_afterScheme (h : ∀ c ∈ address.toList, Uri.isAddressChar c = true) :
    Web.Url.parse (afterScheme address) = (do
      let host ← Web.Url.parseHost (Web.Url.splitHost false (placeText address)).1
      let port ← Web.Url.parsePort ((Web.Url.splitHost false (placeText address)).2.drop 1)
      return { host, port, path := steps, query := none, fragment := none }) := by
  have hne : ∀ {c d : Char}, c ∈ placeText address → Uri.isAddressChar d = false → c ≠ d :=
    fun hc hd => Uri.ne_of_isAddressChar (isAddressChar_of_mem_placeText h _ hc) hd
  have htext : (afterScheme address).toList = placeText address ++ path.toList := by
    simp [afterScheme, placeText]
  have hdropped : ∀ c ∈ (afterScheme address).toList, Web.Url.isDropped c = false := by
    rw [htext]
    refine List.forall_mem_append.mpr ⟨fun c hc => ?_, fun c hc => ?_⟩
    · simp [Web.Url.isDropped, hne (d := '\t') hc (by decide), hne (d := '\n') hc (by decide),
        hne (d := '\r') hc (by decide)]
    · exact Bool.not_eq_eq_eq_not.mp (List.all_eq_true.mp
        (show path.toList.all (!Web.Url.isDropped ·) = true by decide) c hc)
  have hends : ∀ c ∈ placeText address, Web.Url.endsAuthority c = false := fun c hc => by
    simp [Web.Url.endsAuthority, Web.Url.isSlash, hne (d := '/') hc (by decide),
      hne (d := '\\') hc (by decide), hne (d := '?') hc (by decide), hne (d := '#') hc (by decide)]
  have huser : Web.Url.afterUser (placeText address) = placeText address :=
    Web.Url.afterUser_of_notMem fun hc => hne hc (by decide) rfl
  have hplace : placeText address ≠ [] := fun hnil =>
    List.cons_ne_nil _ _ (List.append_eq_nil_iff.mp hnil).2
  have hslash : path.toList = '/' :: path.toList.tail := by decide
  have hplain : ∀ c ∈ path.toList.tail, (c != '?' && c != '#') = true :=
    List.all_eq_true.mp (by decide)
  rw [Web.Url.parse_of_parts (htext.trans (congrArg _ hslash)) hplace hdropped hends hplain, huser,
    ← hslash, parsePath_path]

/-- What stands before a colon in an address is taken for the host. -/
theorem splitHost_address {cs rest : List Char} (hcolon : ':' ∉ cs)
    (h : ∀ c ∈ cs, Uri.isAddressChar c = true) :
    Web.Url.splitHost false (cs ++ ':' :: rest) = (cs, ':' :: rest) :=
  Web.Url.splitHost_of_bare fun c hc => ⟨fun heq => hcolon (heq ▸ hc),
    Uri.ne_of_isAddressChar (h c hc) (by decide), Uri.ne_of_isAddressChar (h c hc) (by decide)⟩

/-- The client finds the host of an address of four bytes. -/
theorem url_of_isIpv4 {bytes : List Nat} (h : Uri.IsIpv4 address.toList bytes) :
    url address = .ok (statusUrl (Web.Ipv4.value bytes)) := by
  have hport : Web.Url.parsePort port.repr.toList = .ok (some port) := rfl
  have hcolon : ':' ∉ address.toList := fun hc => absurd (h.forall_mem ':' hc) (by decide)
  rw [url, parse_afterScheme h.isAddressChar_of_mem, placeText,
    splitHost_address hcolon h.isAddressChar_of_mem, Web.Url.parseHost_of_isIpv4 h]
  show (Except.mapError HttpProblem.badUrl (do
    let port ← Web.Url.parsePort port.repr.toList
    _)) = _
  rw [hport]
  rfl

/-- What the client asks for at an address of four bytes is what was written. -/
theorem text_statusUrl {bytes : List Nat} (h : Uri.IsIpv4 address.toList bytes) :
    (statusUrl (Web.Ipv4.value bytes)).text = urlText address := by
  have hhost : Web.Ipv4.text (Web.Ipv4.value bytes) = address := by
    rw [← String.toList_inj, Web.Ipv4.text_value h]
  have hsteps : String.join (steps.map ("/" ++ ·)) = path := by decide
  calc (statusUrl (Web.Ipv4.value bytes)).text
      = Web.Url.schemeText ++ Web.Ipv4.text (Web.Ipv4.value bytes) ++ (":" ++ port.repr) ++
          String.join (steps.map ("/" ++ ·)) ++ "" ++ "" := rfl
    _ = urlText address := by
        rw [hhost, hsteps, urlText, afterScheme]
        simp only [String.append_assoc, String.append_empty]

/-- The client refuses an address of groups without brackets: if what stands before its first colon
is a host, then what follows is no port. -/
theorem url_of_isIpv6 (h : Uri.IsIpv6 address.toList) :
    ∃ problem, url address = .error (.badUrl problem) := by
  have hcolon : ':' ∈ address.toList := List.count_pos_iff.mp
    (Nat.lt_of_lt_of_le (by decide) h.two_le_count_colon)
  obtain ⟨left, right, heq, hleft⟩ := List.eq_append_cons_of_mem hcolon
  have hplace : placeText address = left ++ ':' :: (right ++ ':' :: port.repr.toList) := by
    rw [placeText, heq, List.append_assoc, List.cons_append]
  have hchars : ∀ c ∈ left, Uri.isAddressChar c = true := fun c hc =>
    h.isAddressChar_of_mem c (heq ▸ List.mem_append_left _ hc)
  have hport : Web.Url.parsePort (right ++ ':' :: port.repr.toList) = .error .badPort :=
    Web.Url.parsePort_of_colon (List.mem_append_right _ List.mem_cons_self)
  rw [url, parse_afterScheme h.isAddressChar_of_mem, hplace, splitHost_address hleft hchars]
  cases Web.Url.parseHost left with
  | error problem => exact ⟨problem, rfl⟩
  | ok host =>
    refine ⟨.badPort, ?_⟩
    show (Except.mapError HttpProblem.badUrl (do
      let port ← Web.Url.parsePort (right ++ ':' :: port.repr.toList)
      _)) = _
    rw [hport]
    rfl

/-- A server without a URL is not asked. -/
theorem ask_of_url_error {problem : HttpProblem} (h : url address = .error problem)
    (fetch : Web.Url → Except HttpProblem String) : ask fetch address = .error (.http problem) := by
  rw [ask, h]
  rfl

/-! ### Every address -/

/-- A text is an address: four bytes, or groups. -/
def IsAddress (address : String) : Prop :=
  (∃ bytes, Uri.IsIpv4 address.toList bytes) ∨ Uri.IsIpv6 address.toList

/-- The URL for an address has the address as its host, the port and the path of servers by the
grammar if and only if the address is one of four bytes; then the client reads it so too, writes it
as it was, and gives no other address the same URL. For an address of groups the text is not read as
anything, neither by the grammar nor by the client, and the server is not asked. With brackets
around the address the text would be read by the grammar as it should be. -/
theorem url_of_literal (h : IsAddress address) :
    (∀ u, Uri.ReadsAs (urlText address) u ↔
      (∃ bytes, Uri.IsIpv4 address.toList bytes) ∧ u = statusAt (.ipv4 address.toList)) ∧
    (∀ bytes, Uri.IsIpv4 address.toList bytes →
      url address = .ok (statusUrl (Web.Ipv4.value bytes)) ∧
      (statusUrl (Web.Ipv4.value bytes)).text = urlText address ∧
      ∀ other, IsAddress other → url other = url address → other = address) ∧
    (Uri.IsIpv6 address.toList →
      (∃ problem, url address = .error (.badUrl problem) ∧
        ∀ fetch, ask fetch address = .error (.http (.badUrl problem))) ∧
      ∀ u, Uri.ReadsAs (urlText ("[" ++ address ++ "]")) u ↔
        u = statusAt (.ipv6 address.toList)) := by
  refine ⟨fun u => ?_, fun bytes hbytes => ?_, fun hgroups => ⟨?_, fun u => ?_⟩⟩
  · obtain ⟨bytes, hbytes⟩ | hgroups := h
    · have hproper : (Uri.Host.ipv4 address.toList).Proper := ⟨bytes, hbytes⟩
      rw [readsAs_iff hproper rfl]
      exact ⟨fun hu => ⟨⟨bytes, hbytes⟩, hu⟩, fun hu => hu.2⟩
    · refine iff_of_false (not_readsAs_of_isIpv6 hgroups u) fun ⟨⟨bytes, hbytes⟩, _⟩ => ?_
      exact Uri.IsIpv4.not_isIpv6 hbytes hgroups
  · refine ⟨url_of_isIpv4 hbytes, text_statusUrl hbytes, fun other hother heq => ?_⟩
    rw [url_of_isIpv4 hbytes] at heq
    obtain ⟨bytes', hbytes'⟩ | hgroups := hother
    · have hsame := Except.ok.inj ((url_of_isIpv4 hbytes').symm.trans heq)
      exact urlText_injective (by rw [← text_statusUrl hbytes', hsame, text_statusUrl hbytes])
    · obtain ⟨problem, hrefused⟩ := url_of_isIpv6 hgroups
      cases hrefused.symm.trans heq
  · obtain ⟨problem, hrefused⟩ := url_of_isIpv6 hgroups
    exact ⟨problem, hrefused, ask_of_url_error hrefused⟩
  · have hproper : (Uri.Host.ipv6 address.toList).Proper := hgroups
    exact readsAs_iff hproper (by simp [Uri.Host.text]) u

theorem isIpv4_addressSample : Uri.IsIpv4 "10.0.0.1".toList [10, 0, 0, 1] :=
  ⟨rfl, by decide, by decide⟩

/-- The address at which a server reaches itself, in the family of groups. -/
theorem isIpv6_loopback : Uri.IsIpv6 "::1".toList := by
  have hone : Uri.IsGroup ['1'] := ⟨by decide, by decide, List.all_eq_true.mp (by decide)⟩
  exact @Uri.IsIpv6.short [] ['1'] 0 1 (.inl ⟨rfl, rfl⟩) (.inr (.one hone)) (by decide)

/-- A server is asked at one address, and another one is never asked. -/
theorem loopback_unreached :
    IsAddress "10.0.0.1" ∧
    Uri.ReadsAs (urlText "10.0.0.1") (statusAt (.ipv4 "10.0.0.1".toList)) ∧
    url "10.0.0.1" = .ok (statusUrl 167772161) ∧
    IsAddress "::1" ∧ (∀ u, ¬ Uri.ReadsAs (urlText "::1") u) ∧
    (∃ problem, url "::1" = .error (.badUrl problem) ∧
      ∀ fetch, ask fetch "::1" = .error (.http (.badUrl problem))) ∧
    Uri.ReadsAs (urlText "[::1]") (statusAt (.ipv6 "::1".toList)) := by
  have hfour : IsAddress "10.0.0.1" := .inl ⟨_, isIpv4_addressSample⟩
  have hgroups : IsAddress "::1" := .inr isIpv6_loopback
  obtain ⟨hread, hclient, -⟩ := url_of_literal hfour
  obtain ⟨hunread, -, hrefused⟩ := url_of_literal hgroups
  obtain ⟨hproblem, hbrackets⟩ := hrefused isIpv6_loopback
  refine ⟨hfour, (hread _).mpr ⟨⟨_, isIpv4_addressSample⟩, rfl⟩,
    (hclient _ isIpv4_addressSample).1, hgroups, fun u hu => ?_, hproblem, (hbrackets _).mpr rfl⟩
  obtain ⟨⟨bytes, hbytes⟩, -⟩ := (hunread u).mp hu
  exact Uri.IsIpv4.not_isIpv6 hbytes isIpv6_loopback

end ClusterOperator.NodeProbe
