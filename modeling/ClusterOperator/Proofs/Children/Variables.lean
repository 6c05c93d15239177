import ClusterOperator.Proofs.Children.Peers
import Mathlib.Data.List.Nodup

/-!
# From declared settings to the variables of a server

What a declaration leaves open is filled in, and all that it sets stays as it is. A server is given
the declared variables and after them those of the operator. Of several variables with one name the
last one counts, so whatever is declared, the variables of the operator have the operator's values,
and all others have the declared ones.

The operator says where data is kept, in the servers themselves or in a MySQL server with all that
is needed to reach it, and whether there are peers, and if so which. Which of these it says depends
on the declared types alone.

## Main definitions

* `Spec.Completes`: a declared state sets all that another one sets.
* `Kubernetes.effective?`: the variable of a name that counts.
* `Plan.Manages`: what the variables of the operator say of a declared state.

## Main results

* `Spec.withDefaults_withDefaults`, `Spec.completes_withDefaults`: filling in what is left open.
* `Plan.manages_operatorVariables`: the variables of the operator.
* `Plan.settings_to_environment`: the way from declared settings to the environment of a server.
-/

namespace ClusterOperator

open Kubernetes

/-! ### Filling in what is left open -/

theorem orIfEmpty_of_ne {s other : String} (h : s ≠ "") : orIfEmpty s other = s := by
  rw [orIfEmpty_eq, if_neg h]

theorem orIfEmpty_ne {s other : String} (h : other ≠ "") : orIfEmpty s other ≠ "" := by
  rw [orIfEmpty_eq]
  by_cases hs : s = ""
  · rw [if_pos hs]
    exact h
  · rw [if_neg hs]
    exact hs

theorem orIfEmpty_orIfEmpty (s other : String) :
    orIfEmpty (orIfEmpty s other) other = orIfEmpty s other := by
  by_cases h : orIfEmpty s other = ""
  · rw [orIfEmpty_eq (orIfEmpty s other), if_pos h]
    by_cases hs : s = ""
    · rw [orIfEmpty_eq, if_pos hs]
    · rw [orIfEmpty_of_ne hs] at h
      exact absurd h hs
  · rw [orIfEmpty_of_ne h]

namespace Database

/-- A database has all that another one sets. -/
structure Completes (e d : Database) : Prop where
  type : d.type ≠ "" → e.type = d.type
  host : d.host ≠ "" → e.host = d.host
  port : d.port ≠ "" → e.port = d.port
  db : d.db ≠ "" → e.db = d.db
  user : d.user ≠ "" → e.user = d.user
  password : d.password ≠ "" → e.password = d.password

variable {d : Database}

/-- No other word is filled in as the one for a MySQL server. -/
theorem type_withDefaults_eq_mysql : d.withDefaults.type = "mysql" ↔ d.type = "mysql" := by
  rw [type_withDefaults, orIfEmpty_eq]
  by_cases hempty : d.type = ""
  · rw [if_pos hempty, hempty]
    decide
  · rw [if_neg hempty]

/-- A MySQL server is described in full. -/
theorem withDefaults_of_mysql (h : d.type = "mysql") :
    d.withDefaults =
      { type := "mysql"
        host := orIfEmpty d.host "127.0.0.1"
        port := orIfEmpty d.port "3306"
        db := orIfEmpty d.db "nacos"
        user := orIfEmpty d.user "root"
        password := orIfEmpty d.password "123456" } := by
  have htype : orIfEmpty d.type Backend.embedded.name = "mysql" :=
    (type_withDefaults d).symm.trans (type_withDefaults_eq_mysql.mpr h)
  unfold withDefaults
  dsimp only
  rw [htype]
  exact if_pos rfl

/-- Of any other database only the type is filled in. -/
theorem withDefaults_of_ne_mysql (h : d.type ≠ "mysql") :
    d.withDefaults = { d with type := orIfEmpty d.type "embedded" } := by
  have htype : orIfEmpty d.type Backend.embedded.name ≠ "mysql" := fun heq =>
    h (type_withDefaults_eq_mysql.mp ((type_withDefaults d).trans heq))
  unfold withDefaults
  dsimp only
  exact if_neg htype

theorem withDefaults_withDefaults (d : Database) :
    d.withDefaults.withDefaults = d.withDefaults := by
  by_cases h : d.type = "mysql"
  · rw [withDefaults_of_mysql h, withDefaults_of_mysql rfl]
    simp only [orIfEmpty_orIfEmpty]
  · rw [withDefaults_of_ne_mysql (mt type_withDefaults_eq_mysql.mp h), type_withDefaults,
      withDefaults_of_ne_mysql h]
    exact congrArg (fun type => { d with type }) (orIfEmpty_orIfEmpty d.type "embedded")

theorem completes_withDefaults (d : Database) : d.withDefaults.Completes d := by
  have htype : d.type ≠ "" → d.withDefaults.type = d.type := fun hset => by
    rw [type_withDefaults, orIfEmpty_of_ne hset]
  by_cases h : d.type = "mysql"
  · rw [withDefaults_of_mysql h] at htype ⊢
    exact ⟨htype, orIfEmpty_of_ne, orIfEmpty_of_ne, orIfEmpty_of_ne, orIfEmpty_of_ne,
      orIfEmpty_of_ne⟩
  · rw [withDefaults_of_ne_mysql h] at htype ⊢
    exact ⟨htype, fun _ => rfl, fun _ => rfl, fun _ => rfl, fun _ => rfl, fun _ => rfl⟩

/-- What is told of a MySQL server: the names of variables, and what is set for them. -/
def settings (d : Database) : List (String × String) :=
  [("MYSQL_SERVICE_HOST", d.host), ("MYSQL_SERVICE_PORT", d.port),
    ("MYSQL_SERVICE_DB_NAME", d.db), ("MYSQL_SERVICE_USER", d.user),
    ("MYSQL_SERVICE_PASSWORD", d.password)]

/-- Whatever is told of a MySQL server is not empty, and it is as declared where it is declared. -/
theorem settings_withDefaults (h : d.type = "mysql") : ∀ s ∈ d.settings,
    ∃ value, (s.1, value) ∈ d.withDefaults.settings ∧ value ≠ "" ∧ (s.2 ≠ "" → value = s.2) := by
  rw [withDefaults_of_mysql h]
  simp only [settings, List.forall_mem_cons, List.not_mem_nil, false_imp_iff, implies_true,
    and_true]
  refine ⟨⟨orIfEmpty d.host "127.0.0.1", by simp, ?_⟩, ⟨orIfEmpty d.port "3306", by simp, ?_⟩,
    ⟨orIfEmpty d.db "nacos", by simp, ?_⟩, ⟨orIfEmpty d.user "root", by simp, ?_⟩,
    ⟨orIfEmpty d.password "123456", by simp, ?_⟩⟩ <;>
  exact ⟨orIfEmpty_ne (by decide), orIfEmpty_of_ne⟩

end Database

namespace Spec

/-- A declared state has all that another one sets: a number of replicas, a text that is not empty,
and everything for which there is no default. -/
structure Completes (t s : Spec) : Prop where
  type : s.type ≠ "" → t.type = s.type
  replicas : ∀ r, s.replicas = some r → t.replicas = some r
  database : t.database.Completes s.database
  others : t = { s with type := t.type, replicas := t.replicas, database := t.database }

theorem withDefaults_withDefaults (s : Spec) : s.withDefaults.withDefaults = s.withDefaults := by
  have htype := orIfEmpty_orIfEmpty s.type Mode.standalone.name
  have hdatabase := s.database.withDefaults_withDefaults
  unfold withDefaults
  simp only [htype, hdatabase, Option.getD_some]

theorem completes_withDefaults (s : Spec) : s.withDefaults.Completes s where
  type := orIfEmpty_of_ne
  replicas r hr := by
    show some (s.replicas.getD defaultReplicas) = some r
    rw [hr]
    rfl
  database := s.database.completes_withDefaults
  others := rfl

end Spec

theorem Mode.eq_name_of_parse {s : String} {m : Mode} (h : parse s = .ok m) : s = m.name := by
  unfold parse at h
  split at h
  · next hs =>
    cases h
    exact hs
  · split at h
    · next hs =>
      cases h
      exact hs
    · cases h

theorem Backend.eq_name_of_parse {s : String} {b : Backend} (h : parse s = .ok b) :
    s = b.name := by
  unfold parse at h
  split at h
  · next hs =>
    cases h
    exact hs
  · split at h
    · next hs =>
      cases h
      exact hs
    · cases h

/-! ### The variable that counts -/

namespace Kubernetes

/-- The variable that a container sees under a name: of several ones the last. -/
def effective? (name : String) (vs : List EnvVar) : Option EnvVar :=
  vs.reverse.find? fun v => v.name == name

theorem effective?_append (name : String) (vs ws : List EnvVar) :
    effective? name (vs ++ ws) = (effective? name ws).or (effective? name vs) := by
  rw [effective?, List.reverse_append, List.find?_append]
  rfl

theorem effective?_eq_none {name : String} {vs : List EnvVar} (h : name ∉ vs.map (·.name)) :
    effective? name vs = none := by
  refine List.find?_eq_none.mpr fun v hv heq => h ?_
  exact List.mem_map.mpr ⟨v, List.mem_reverse.mp hv, eq_of_beq heq⟩

/-- A variable whose name stands once counts. -/
theorem effective?_of_mem {v : EnvVar} {vs : List EnvVar} (distinct : (vs.map (·.name)).Nodup)
    (h : v ∈ vs) : effective? v.name vs = some v := by
  have hfound : effective? v.name vs ≠ none := fun hnone =>
    List.find?_eq_none.mp hnone v (List.mem_reverse.mpr h) (beq_self_eq_true v.name)
  obtain ⟨w, hw⟩ := Option.ne_none_iff_exists'.mp hfound
  have hfind : vs.reverse.find? (fun u => u.name == v.name) = some w := hw
  have hname : w.name = v.name := by simpa using List.find?_some hfind
  have hmem : w ∈ vs := List.mem_reverse.mp (List.mem_of_find?_eq_some hfind)
  rw [hw, List.inj_on_of_nodup_map distinct hmem h hname]

end Kubernetes

/-! ### The variables of the operator -/

/-- A declaration with other variables. -/
def Declaration.withVariables (d : Declaration) (declared : List EnvVar) : Declaration :=
  { d with spec := { d.spec with env := declared } }

namespace Plan

variable {d : Declaration} {domain : String} {p q : Plan}

/-- What the variables of the operator say of a declaration, once nothing is left open in it. -/
structure Manages (d : Declaration) (domain : String) (vs : List EnvVar) : Prop where
  distinct : (vs.map (·.name)).Nodup
  host : .plain "PREFER_HOST_MODE" "hostname" ∈ vs
  /-- Data is kept in the servers, or in a MySQL server of which everything is told. -/
  backend :
    (d.spec.withDefaults.database.type = "embedded" ∧
      .plain "EMBEDDED_STORAGE" "embedded" ∈ vs ∧
      ∀ setting ∈ d.spec.database.settings, setting.1 ∉ vs.map (·.name)) ∨
    (d.spec.withDefaults.database.type = "mysql" ∧
      "EMBEDDED_STORAGE" ∉ vs.map (·.name) ∧
      ∀ setting ∈ d.spec.database.settings, ∃ value, .plain setting.1 value ∈ vs ∧ value ≠ "" ∧
        (setting.2 ≠ "" → value = setting.2))
  /-- There is a single server, or there are peers, whose number and addresses are told. -/
  mode :
    (d.spec.withDefaults.type = "standalone" ∧
      .plain "MODE" "standalone" ∈ vs ∧
      countVariable ∉ vs.map (·.name) ∧ peersVariable ∉ vs.map (·.name)) ∨
    (d.spec.withDefaults.type = "cluster" ∧
      "MODE" ∉ vs.map (·.name) ∧
      ∃ (space : String) (replicas : Nat), d.metadata.space = some space ∧
        d.spec.withDefaults.replicas.map (·.val) = some (replicas : Int) ∧
        .plain countVariable replicas.repr ∈ vs ∧
        .plain peersVariable (" ".intercalate (addresses d.displayName space domain replicas)) ∈ vs)

theorem names_modeVariables (p : Plan) : p.modeVariables.map (·.name) =
    match p.mode with
    | .standalone => ["MODE"]
    | .cluster => [countVariable, peersVariable] := by
  unfold modeVariables
  cases p.mode <;> rfl

theorem names_operatorVariables (p : Plan) : p.operatorVariables.map (·.name) =
    "PREFER_HOST_MODE" :: (p.backendVariables.map (·.name) ++ p.modeVariables.map (·.name)) := by
  rw [operatorVariables, List.map_cons, List.map_append]
  rfl

theorem nodup_operatorVariables (p : Plan) : (p.operatorVariables.map (·.name)).Nodup := by
  rw [names_operatorVariables, names_backendVariables, names_modeVariables]
  cases p.backend <;> cases p.mode <;> decide

theorem backendVariables_eq (h : p.backend = .mysql) : p.backendVariables =
    p.declaration.spec.database.settings.map fun setting => .plain setting.1 setting.2 := by
  unfold backendVariables
  rw [h]
  rfl

theorem mem_operatorVariables {v : EnvVar} :
    v ∈ p.operatorVariables ↔ v = .plain "PREFER_HOST_MODE" "hostname" ∨
      v ∈ p.backendVariables ∨ v ∈ p.modeVariables := by
  rw [operatorVariables, List.mem_cons, List.mem_append]

/-- The variables of the operator say what they have to say. -/
theorem manages_operatorVariables (h : ofDeclaration d.withDefaults domain = .ok p) :
    Manages d domain p.operatorVariables := by
  obtain ⟨hdeclaration, hname, hspace, hmode, hbackend, hreplicas, hdomain⟩ :=
    ofDeclaration_eq_ok h
  constructor
  case distinct => exact p.nodup_operatorVariables
  case host => exact mem_operatorVariables.mpr (.inl rfl)
  case backend =>
    have htype := Backend.eq_name_of_parse hbackend
    rw [names_operatorVariables, names_backendVariables, names_modeVariables]
    cases hbackend : p.backend with
    | embedded =>
      refine .inl ⟨htype.trans (congrArg Backend.name hbackend), ?_, ?_⟩
      · have hmem : .plain "EMBEDDED_STORAGE" "embedded" ∈ p.backendVariables := by
          unfold backendVariables
          rw [hbackend]
          exact List.mem_singleton_self _
        exact mem_operatorVariables.mpr (.inr (.inl hmem))
      · cases p.mode <;> simp [Database.settings, countVariable, peersVariable]
    | mysql =>
      have hmysql : d.spec.withDefaults.database.type = "mysql" :=
        htype.trans (congrArg Backend.name hbackend)
      refine .inr ⟨hmysql, ?_, fun setting hsetting => ?_⟩
      · cases p.mode <;> decide
      · have hmysql := Database.type_withDefaults_eq_mysql.mp hmysql
        obtain ⟨value, hvalue, hset⟩ := Database.settings_withDefaults hmysql setting hsetting
        have hmem : .plain setting.1 value ∈ p.backendVariables := by
          rw [backendVariables_eq hbackend, hdeclaration]
          exact List.mem_map.mpr ⟨_, hvalue, rfl⟩
        exact ⟨value, mem_operatorVariables.mpr (.inr (.inl hmem)), hset⟩
  case mode =>
    have htype := Mode.eq_name_of_parse hmode
    rw [names_operatorVariables, names_backendVariables, names_modeVariables]
    cases hmode : p.mode with
    | standalone =>
      refine .inl ⟨htype.trans (congrArg Mode.name hmode), ?_, ?_, ?_⟩
      · have hmem : .plain "MODE" "standalone" ∈ p.modeVariables := by
          unfold modeVariables
          rw [hmode]
          exact List.mem_singleton_self _
        exact mem_operatorVariables.mpr (.inr (.inr hmem))
      · cases p.backend <;> decide
      · cases p.backend <;> decide
    | cluster =>
      have hvariables : p.modeVariables = [.plain countVariable p.replicas.repr,
          .plain peersVariable (" ".intercalate p.peers)] := by
        rw [modeVariables, hmode]
        rfl
      have hpeers : p.peers = addresses d.displayName p.space domain p.replicas := by
        rw [peers_eq_addresses, hname, hdomain]
        rfl
      refine .inr ⟨htype.trans (congrArg Mode.name hmode), ?_, p.space, p.replicas, hspace, ?_,
        ?_, ?_⟩
      · cases p.backend <;> decide
      · exact congrArg some hreplicas.symm
      · refine mem_operatorVariables.mpr (.inr (.inr ?_))
        rw [hvariables]
        exact List.mem_cons_self
      · refine mem_operatorVariables.mpr (.inr (.inr ?_))
        rw [hvariables, hpeers]
        exact List.mem_cons_of_mem _ (List.mem_singleton_self _)

/-- The variables of the operator are the same for declarations with the same name, namespace, mode,
database and number of replicas. -/
theorem operatorVariables_congr (h : ofDeclaration d domain = .ok p)
    {d' : Declaration} (h' : ofDeclaration d' domain = .ok q) (metadata : d'.metadata = d.metadata)
    (type : d'.spec.type = d.spec.type) (database : d'.spec.database = d.spec.database)
    (replicas : d'.spec.replicas = d.spec.replicas) :
    q.operatorVariables = p.operatorVariables := by
  obtain ⟨hdeclaration, hname, hspace, hmode, hbackend, hreplicas, hdomain⟩ :=
    ofDeclaration_eq_ok h
  obtain ⟨hdeclaration', hname', hspace', hmode', hbackend', hreplicas', hdomain'⟩ :=
    ofDeclaration_eq_ok h'
  have hsamename : q.name = p.name := by
    rw [hname, hname', Declaration.displayName, Declaration.displayName, metadata]
  have hsamespace : q.space = p.space := by
    rw [metadata, hspace] at hspace'
    exact (Option.some.inj hspace').symm
  have hsamemode : q.mode = p.mode := by
    rw [type, hmode] at hmode'
    exact (Except.ok.inj hmode').symm
  have hsamebackend : q.backend = p.backend := by
    rw [database, hbackend] at hbackend'
    exact (Except.ok.inj hbackend').symm
  have hsamereplicas : q.replicas = p.replicas := by
    rw [replicas, ← hreplicas] at hreplicas'
    exact Int.ofNat_inj.mp hreplicas'
  have hpeers : q.peers = p.peers := by
    rw [peers_eq_addresses, peers_eq_addresses, hsamename, hsamespace, hsamereplicas, hdomain,
      hdomain']
  unfold operatorVariables backendVariables modeVariables
  rw [hsamebackend, hsamemode, hsamereplicas, hpeers, hdeclaration, hdeclaration', database]

/-- Whatever variables are declared, the operator says the same. -/
theorem operatorVariables_withVariables (h : ofDeclaration d.withDefaults domain = .ok p)
    (declared : List EnvVar) :
    ∃ q, ofDeclaration (d.withVariables declared).withDefaults domain = .ok q ∧
      q.operatorVariables = p.operatorVariables := by
  obtain ⟨-, -, hspace, -⟩ := ofDeclaration_eq_ok h
  have haccepted : ¬ d.spec.Refused := fun refused => by
    obtain ⟨fault, hfault, -⟩ := ofDeclaration_refused (d := d) domain hspace refused
    cases h.symm.trans hfault
  obtain ⟨q, hq⟩ := exists_ofDeclaration (d := d.withVariables declared) domain hspace haccepted
  exact ⟨q, hq, operatorVariables_congr h hq rfl rfl rfl rfl⟩

/-- Filling in what a declaration leaves open changes nothing that it sets, and doing it once is
enough. The environment of a server is the declared one, followed by the variables of the operator,
which say what they have to say whatever variables are declared. Under the name of one of them a
container sees just this one, and under every other name what is declared. -/
theorem settings_to_environment (d : Declaration) (domain : String) :
    d.spec.withDefaults.withDefaults = d.spec.withDefaults ∧
    d.spec.withDefaults.Completes d.spec ∧
    ∀ p, ofDeclaration d.withDefaults domain = .ok p →
      p.statefulSet.container?.bind (·.env) = some p.environment ∧
      p.environment = d.spec.env ++ p.operatorVariables ∧
      Manages d domain p.operatorVariables ∧
      (∀ v ∈ p.operatorVariables, effective? v.name p.environment = some v) ∧
      (∀ name ∉ p.operatorVariables.map (·.name),
        effective? name p.environment = effective? name d.spec.env) ∧
      ∀ declared, ∃ q, ofDeclaration (d.withVariables declared).withDefaults domain = .ok q ∧
        q.operatorVariables = p.operatorVariables := by
  refine ⟨d.spec.withDefaults_withDefaults, d.spec.completes_withDefaults, fun p h => ?_⟩
  have henvironment : p.environment = d.spec.env ++ p.operatorVariables := by
    obtain ⟨hdeclaration, -⟩ := ofDeclaration_eq_ok h
    rw [environment, hdeclaration]
    rfl
  refine ⟨rfl, henvironment, manages_operatorVariables h, fun v hv => ?_, fun name hname => ?_,
    operatorVariables_withVariables h⟩
  · rw [henvironment, effective?_append, effective?_of_mem p.nodup_operatorVariables hv]
    rfl
  · rw [henvironment, effective?_append, effective?_eq_none hname]
    rfl

end Plan

namespace Declaration

/-- A cluster with a MySQL server of which only the host is declared, and with variables of which
one stands twice and another one has a name that the operator uses. -/
def overridingSample : Declaration where
  metadata := { name := some "nc", space := some "default" }
  spec :=
    { type := "cluster"
      image := "nacos/nacos-server:v2"
      replicas := some ⟨4, by decide⟩
      database := { type := "mysql", host := "mysql.db" }
      env := [.plain "JAVA_OPT" "-Xms1g", .plain "MYSQL_SERVICE_PORT" "3307",
        .plain "JAVA_OPT" "-Xms2g"] }

/-- Of its two equal names the second one counts, and the port is the operator's. -/
theorem overridingSample_environment :
    ∃ p, Plan.ofDeclaration overridingSample.withDefaults "cluster.local" = .ok p ∧
      Plan.Manages overridingSample "cluster.local" p.operatorVariables ∧
      effective? "MYSQL_SERVICE_PORT" p.environment = some (.plain "MYSQL_SERVICE_PORT" "3306") ∧
      effective? "JAVA_OPT" p.environment = some (.plain "JAVA_OPT" "-Xms2g") := by
  obtain ⟨p, hp⟩ : ∃ p, Plan.ofDeclaration overridingSample.withDefaults "cluster.local" = .ok p :=
    ⟨_, rfl⟩
  obtain ⟨-, -, hplan⟩ := Plan.settings_to_environment overridingSample "cluster.local"
  obtain ⟨-, -, manages, managed, declared, -⟩ := hplan p hp
  cases hp
  exact ⟨_, rfl, manages,
    managed (.plain "MYSQL_SERVICE_PORT" "3306") (.tail _ (.tail _ (.head _))),
    declared "JAVA_OPT" (by decide)⟩

end Declaration

end ClusterOperator
