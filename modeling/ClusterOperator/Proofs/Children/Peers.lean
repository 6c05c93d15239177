import ClusterOperator.Proofs.Children.Coherence

/-!
# The peers of a cluster

The servers of a cluster are told of each other twice: in a variable, with a single space between
each two addresses, and in a file, with one address in each line. Read back, both texts give the
same addresses, which are those of the replicas in the order of their ordinals. A single server is
told of no peers.

## Main definitions

* `Text.words`, `Text.lines`, `Text.Terminated`: how the two texts are read.
* `Kubernetes.valuesOf`: the values that variables of a name have.
* `Plan.ListsPeers`: both texts list the same addresses.

## Main results

* `Text.words_intercalate`, `Text.lines_join`: joined words and lines are read back.
* `Plan.ofDeclaration_peers`: both texts of a cluster list its peers, a single server has none.
-/

namespace ClusterOperator

open Kubernetes

/-! ### Words and lines -/

namespace Text

/-- The words of a text with a single space between each two. An empty text has none. -/
def words (s : String) : List String :=
  if s.isEmpty then [] else (s.toList.splitOn ' ').map String.ofList

/-- A line without a carriage return at its end. -/
def withoutReturn (line : List Char) : List Char :=
  if line.getLast? = some '\r' then line.dropLast else line

/-- The lines of a text. Each of them ends with a line feed, or a carriage return and a line feed;
for the last one it may be missing. -/
def lines (s : String) : List String :=
  let pieces := s.toList.splitOn '\n'
  let pieces := if pieces.getLast? = some [] then pieces.dropLast else pieces
  pieces.map fun line => String.ofList (withoutReturn line)

/-- Every line of a text ends with a line feed. -/
def Terminated (s : String) : Prop := ∀ c ∈ s.toList.getLast?, c = '\n'

/-- A text contains no white space. -/
def Unbroken (s : String) : Prop := ∀ c ∈ s.toList, isBlank c = false

instance (s : String) : Decidable (Unbroken s) :=
  List.decidableBAll (fun c => isBlank c = false) s.toList

theorem Unbroken.append {s t : String} (hs : Unbroken s) (ht : Unbroken t) : Unbroken (s ++ t) := by
  intro c hc
  rw [String.toList_append, List.mem_append] at hc
  exact hc.elim (hs c) (ht c)

theorem Unbroken.not_mem {s : String} (h : Unbroken s) {c : Char} (blank : isBlank c = true) :
    c ∉ s.toList := fun hc => by
  rw [h c hc] at blank
  cases blank

theorem unbroken_repr (n : Nat) : Unbroken n.repr := by
  intro c hc
  rw [Nat.toList_repr] at hc
  exact Instant.isBlank_of_isDigit (Nat.isDigit_of_mem_toDigits (by decide) (by decide) hc)

/-- Words that are joined by spaces are read back. -/
theorem words_intercalate {ws : List String} (unbroken : ∀ w ∈ ws, Unbroken w)
    (nonempty : ∀ w ∈ ws, w ≠ "") : words (" ".intercalate ws) = ws := by
  cases ws with
  | nil => rfl
  | cons w rest =>
    have hne : (" ".intercalate (w :: rest)).isEmpty = false := by
      rw [← Bool.not_eq_true, String.isEmpty_iff]
      intro hempty
      refine nonempty w List.mem_cons_self ?_
      cases rest with
      | nil => exact hempty
      | cons _ _ =>
        rw [String.intercalate_cons_cons] at hempty
        exact (String.append_eq_empty_iff.mp (String.append_eq_empty_iff.mp hempty).1).1
    have hspaces : ∀ cs ∈ (w :: rest).map String.toList, ' ' ∉ cs := by
      intro cs hcs
      obtain ⟨v, hv, rfl⟩ := List.mem_map.mp hcs
      exact (unbroken v hv).not_mem rfl
    have hsplit : (" ".intercalate (w :: rest)).toList.splitOn ' ' =
        (w :: rest).map String.toList :=
      String.toList_intercalate ▸ List.splitOn_intercalate ' ' hspaces (List.cons_ne_nil _ _)
    rw [words, if_neg (by rw [hne]; decide), hsplit, List.map_map]
    calc (w :: rest).map (String.ofList ∘ String.toList)
        = (w :: rest).map id := List.map_congr_left fun _ _ => String.ofList_toList
      _ = w :: rest := List.map_id _

/-- A text of terminated lines, cut at its line feeds. -/
theorem splitOn_join {ls : List String} (unbroken : ∀ l ∈ ls, Unbroken l) :
    (String.join (ls.map fun l => l ++ "\n")).toList.splitOn '\n' =
      ls.map String.toList ++ [[]] := by
  induction ls with
  | nil => rfl
  | cons l rest ih =>
    obtain ⟨hl, hrest⟩ := List.forall_mem_cons.mp unbroken
    have htext : (String.join ((l :: rest).map fun l => l ++ "\n")).toList =
        l.toList ++ '\n' :: (String.join (rest.map fun l => l ++ "\n")).toList := by
      rw [List.map_cons, String.join_cons, String.toList_append, String.toList_append,
        List.append_assoc]
      rfl
    rw [htext, List.splitOn_append_cons_self_of_not_mem (hl.not_mem rfl), ih hrest]
    rfl

theorem withoutReturn_of_unbroken {s : String} (h : Unbroken s) :
    String.ofList (withoutReturn s.toList) = s := by
  have hlast : s.toList.getLast? ≠ some '\r' := fun hlast =>
    h.not_mem (c := '\r') rfl (List.mem_of_getLast? hlast)
  rw [withoutReturn, if_neg hlast, String.ofList_toList]

/-- Lines that are terminated one by one are read back. -/
theorem lines_join {ls : List String} (unbroken : ∀ l ∈ ls, Unbroken l) :
    lines (String.join (ls.map fun l => l ++ "\n")) = ls := by
  rw [lines, splitOn_join unbroken]
  simp only [List.getLast?_concat, if_true, List.dropLast_concat, List.map_map]
  calc ls.map ((fun line => String.ofList (withoutReturn line)) ∘ String.toList)
      = ls.map id := List.map_congr_left fun l hl => withoutReturn_of_unbroken (unbroken l hl)
    _ = ls := List.map_id ls

theorem terminated_join (ls : List String) :
    Terminated (String.join (ls.map fun l => l ++ "\n")) := by
  intro c hc
  rcases List.eq_nil_or_concat ls with rfl | ⟨init, l, rfl⟩
  · cases hc
  · rw [List.concat_eq_append, List.map_append, String.join_append, List.map_singleton,
      String.join_cons, String.join_nil, String.append_empty, ← String.append_assoc,
      String.toList_append] at hc
    exact (Option.some.inj (List.getLast?_concat.symm.trans hc)).symm

end Text

/-! ### What a cluster is told of its peers -/

namespace Kubernetes

/-- The values that variables of a name have. -/
def valuesOf (name : String) (vs : List EnvVar) : List (Option String) :=
  (vs.filter fun v => v.name == name).map (·.value)

theorem valuesOf_eq_nil {name : String} {vs : List EnvVar} (h : name ∉ vs.map (·.name)) :
    valuesOf name vs = [] := by
  rw [valuesOf, List.map_eq_nil_iff, List.filter_eq_nil_iff]
  intro v hv heq
  exact h (List.mem_map.mpr ⟨v, hv, eq_of_beq heq⟩)

theorem valuesOf_append (name : String) (vs ws : List EnvVar) :
    valuesOf name (vs ++ ws) = valuesOf name vs ++ valuesOf name ws := by
  rw [valuesOf, List.filter_append, List.map_append]
  rfl

end Kubernetes

namespace Plan

/-- The variable of the number of replicas. -/
def countVariable : String := "NACOS_REPLICAS"

/-- The variable of the peers. -/
def peersVariable : String := "NACOS_SERVERS"

/-- The addresses of the servers of a cluster in the order of their ordinals. -/
def addresses (name space domain : String) (replicas : Nat) : List String :=
  (List.range replicas).map fun ordinal =>
    name ++ "-" ++ ordinal.repr ++ "." ++ name ++ "-headless." ++ space ++ ".svc." ++ domain ++
      ":8848"

/-- What the variables of the operator and the configuration map say of peers: both list the same
addresses, and there are as many as replicas. -/
structure ListsPeers (p : Plan) (peers : List String) (replicas : Nat) : Prop where
  servers : ∃ text, valuesOf peersVariable p.operatorVariables = [some text] ∧
    Text.words text = peers
  file : ∃ text, (p.configMap.data.getD ∅).get? peersKey = some text ∧
    Text.lines text = peers ∧ Text.Terminated text
  distinct : peers.Nodup
  count : ∃ text, valuesOf countVariable p.operatorVariables = [some text] ∧
    Text.natural? text.toList = some replicas
  replicas : p.statefulSet.replicas?.map (·.val) = some (replicas : Int)

variable {d : Declaration} {domain : String} {p : Plan}

theorem peers_eq_addresses (p : Plan) :
    p.peers = addresses p.name p.space p.domain p.replicas := by
  refine List.map_congr_left fun ordinal _ => ?_
  have hheadless : "-headless." = "-headless" ++ "." := rfl
  simp only [peer_eq, headlessName, hheadless, String.append_assoc]

theorem nodup_peers (p : Plan) : p.peers.Nodup := by
  refine List.Pairwise.map p.peer (fun i j hne heq => hne ?_) List.nodup_range
  rw [peer_eq, peer_eq, String.append_left_inj, String.append_left_inj, String.append_left_inj,
    String.append_right_inj] at heq
  exact Text.repr_injective heq

/-- Addresses that are made of unbroken names are unbroken. -/
theorem unbroken_peers (hname : Text.Unbroken p.name) (hspace : Text.Unbroken p.space)
    (hdomain : Text.Unbroken p.domain) : ∀ peer ∈ p.peers, Text.Unbroken peer := by
  intro peer hpeer
  obtain ⟨ordinal, -, rfl⟩ := exists_of_mem_peers hpeer
  have hservice : Text.Unbroken p.headlessName := hname.append (by decide)
  have hdomain : Text.Unbroken (p.headlessName ++ "." ++ p.space ++ ".svc." ++ p.domain) :=
    (((hservice.append (by decide)).append hspace).append (by decide)).append hdomain
  have hpod : Text.Unbroken (p.name ++ "-" ++ ordinal.repr) :=
    (hname.append (by decide)).append (Text.unbroken_repr ordinal)
  rw [peer_eq]
  exact ((hpod.append (by decide)).append hdomain).append (by decide)

theorem ne_empty_of_mem_peers : ∀ peer ∈ p.peers, peer ≠ "" := by
  intro peer hpeer hempty
  obtain ⟨ordinal, -, rfl⟩ := exists_of_mem_peers hpeer
  rw [peer_eq, String.append_eq_empty_iff] at hempty
  exact absurd hempty.2 (by decide)

theorem names_backendVariables (p : Plan) : p.backendVariables.map (·.name) =
    match p.backend with
    | .embedded => ["EMBEDDED_STORAGE"]
    | .mysql =>
      ["MYSQL_SERVICE_HOST", "MYSQL_SERVICE_PORT", "MYSQL_SERVICE_DB_NAME", "MYSQL_SERVICE_USER",
        "MYSQL_SERVICE_PASSWORD"] := by
  unfold backendVariables
  cases p.backend <;> rfl

/-- The words under which peers are told of. -/
def peerKeys : List String := [peersVariable, countVariable, peersKey]

/-- What the variables of the operator tell of peers depends on the mode alone. -/
theorem valuesOf_operatorVariables {name : String} (h : name ∈ peerKeys) :
    valuesOf name p.operatorVariables = valuesOf name p.modeVariables := by
  have hother : name ∉ "PREFER_HOST_MODE" :: p.backendVariables.map (·.name) := by
    rw [names_backendVariables]
    revert name
    cases p.backend <;> decide
  have hnone : valuesOf name (.plain "PREFER_HOST_MODE" "hostname" :: p.backendVariables) = [] :=
    valuesOf_eq_nil hother
  rw [operatorVariables, ← List.cons_append, valuesOf_append, hnone, List.nil_append]

/-- A single server is told of no peers. -/
theorem tells_nothing_of_peers (h : p.mode = .standalone) : ∀ key ∈ peerKeys,
    valuesOf key p.operatorVariables = [] ∧ (p.configMap.data.getD ∅).get? key = none := by
  intro key hkey
  constructor
  · have hmode : p.modeVariables = [.plain "MODE" Mode.standalone.name] := by
      rw [modeVariables, h]
    rw [valuesOf_operatorVariables hkey, hmode]
    refine valuesOf_eq_nil ?_
    revert key
    decide
  · have hne : key ≠ customKey ∧ key ≠ applicationKey := by
      revert key
      decide
    show p.configData.get? key = none
    unfold configData
    rw [h]
    cases p.config? with
    | some config => exact SortedMap.get?_insert_of_ne _ _ hne.1
    | none => exact SortedMap.get?_insert_of_ne _ _ hne.2

/-- A cluster is told of its peers in both texts. -/
theorem listsPeers (h : p.mode = .cluster) (hname : Text.Unbroken p.name)
    (hspace : Text.Unbroken p.space) (hdomain : Text.Unbroken p.domain) :
    p.ListsPeers p.peers p.replicas := by
  have hpeers := unbroken_peers hname hspace hdomain
  have hmode : p.modeVariables = [.plain countVariable p.replicas.repr,
      .plain peersVariable (" ".intercalate p.peers)] := by
    rw [modeVariables, h]
    rfl
  have hconfig : (p.configMap.data.getD ∅).get? peersKey =
      some (String.join (p.peers.map fun peer => peer ++ "\n")) := by
    show p.configData.get? peersKey = _
    unfold configData
    rw [h]
    exact SortedMap.get?_insert_self _ _ _
  refine { servers := ?_, file := ?_, distinct := p.nodup_peers, count := ?_, replicas := rfl }
  · refine ⟨_, ?_, Text.words_intercalate hpeers ne_empty_of_mem_peers⟩
    rw [valuesOf_operatorVariables (by decide), hmode]
    rfl
  · exact ⟨_, hconfig, Text.lines_join hpeers, Text.terminated_join _⟩
  · refine ⟨p.replicas.repr, ?_, ?_⟩
    · rw [valuesOf_operatorVariables (by decide), hmode]
      rfl
    · rw [Nat.toList_repr, Text.natural?_toDigits]

/-- Both texts of a cluster list its peers in the order of their ordinals, and the number that it
is told is that of its replicas. A single server is told of no peers. -/
theorem ofDeclaration_peers (domain : String) {mode : Mode} {space : String} {backend : Backend}
    {replicas : Nat} (htype : d.spec.type = mode.name) (hspace : d.metadata.space = some space)
    (hbackend : Backend.parse d.spec.database.type = .ok backend)
    (hreplicas : (d.spec.replicas.getD defaultReplicas).val = replicas) :
    ∃ p, ofDeclaration d domain = .ok p ∧
      p.statefulSet.container?.bind (·.env) = some (d.spec.env ++ p.operatorVariables) ∧
      (mode = .cluster → Text.Unbroken d.displayName → Text.Unbroken space →
        Text.Unbroken domain →
          p.ListsPeers (addresses d.displayName space domain replicas) replicas) ∧
      (mode = .standalone → ∀ key ∈ peerKeys,
        valuesOf key p.operatorVariables = [] ∧ (p.configMap.data.getD ∅).get? key = none) := by
  obtain ⟨p, hp⟩ : ∃ p, ofDeclaration d domain = .ok p := by
    rw [ofDeclaration_of_space domain hspace, htype, hbackend, Mode.parse_name]
    exact ⟨_, dif_pos (hreplicas ▸ Int.natCast_nonneg replicas)⟩
  have hmode := mode_of_type hp htype
  obtain ⟨rfl, hname, hspace', -, -, hcount, rfl⟩ := ofDeclaration_eq_ok hp
  refine ⟨p, hp, rfl, ?_, fun hstandalone => tells_nothing_of_peers (hmode.trans hstandalone)⟩
  intro hcluster unbrokenName unbrokenSpace unbrokenDomain
  obtain rfl : p.space = space := Option.some.inj (hspace'.symm.trans hspace)
  obtain rfl : p.replicas = replicas := Int.ofNat_inj.mp (hcount.trans hreplicas)
  rw [← hname, ← peers_eq_addresses]
  exact listsPeers (hmode.trans hcluster) (hname ▸ unbrokenName) unbrokenSpace unbrokenDomain

end Plan

/-- A cluster of two servers. -/
def Declaration.pairSample : Declaration :=
  { labelledSample with spec := { labelledSample.spec with replicas := some ⟨2, by decide⟩ } }

theorem Declaration.pairSample_peers : ∃ p,
    Plan.ofDeclaration pairSample "cluster.local" = .ok p ∧
    p.ListsPeers ["nc-0.nc-headless.default.svc.cluster.local:8848",
      "nc-1.nc-headless.default.svc.cluster.local:8848"] 2 := by
  have htype : pairSample.spec.type = Mode.cluster.name := rfl
  have hbackend : Backend.parse pairSample.spec.database.type = .ok .embedded := rfl
  have hreplicas : (pairSample.spec.replicas.getD defaultReplicas).val = (2 : Nat) := rfl
  obtain ⟨p, hp, -, hpeers, -⟩ :=
    Plan.ofDeclaration_peers "cluster.local" htype rfl hbackend hreplicas
  exact ⟨p, hp, hpeers rfl (by decide) (by decide) (by decide)⟩

end ClusterOperator
