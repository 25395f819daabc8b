import KubeNovaOperator.Proofs.Quiet

/-!
# Which node address `getNodeIP` returns

`getNodeIP` lists the nodes and walks them in the order the API returns them.  The first node
that reports `Ready` and has an external or internal address decides: its first external
address, else its first internal one (`readyNodeIP_eq_find`: the loop is a search, then a
choice within one node).  When no ready node has an address, only the first node of the list
is read, for its first address of either type; otherwise the result is the empty string.

* `getNodeIP_run_quiet_choice`: undisturbed, the result is as `NodeIPChoice` says, for every
  node list.
* `getNodeIP_passes_over_later_nodes`: so the preference for an external address holds within
  the deciding node only, and an address on any later node is not read when no node is
  ready.
* `accessWebURL_placeholder_of_no_address`: in node-port mode the web address then carries the
  placeholder `<NODE-IP>`.
-/

namespace KubeNovaOperator

/-- An address `getNodeIP` can return: an external or an internal one. -/
def NodeAddress.IsIP (a : NodeAddress) : Prop := a.type = "ExternalIP" ∨ a.type = "InternalIP"

instance : DecidablePred NodeAddress.IsIP := fun a =>
  inferInstanceAs (Decidable (a.type = "ExternalIP" ∨ a.type = "InternalIP"))

/-- A node reports an external or an internal address. -/
def Node.HasIP (n : Node) : Prop := ∃ a ∈ n.addresses, a.IsIP

instance : DecidablePred Node.HasIP := fun n =>
  inferInstanceAs (Decidable (∃ a ∈ n.addresses, a.IsIP))

/-- `ip` is an external address of `n`, or an internal one when `n` has no external one. -/
def Node.PrefersExternal (n : Node) (ip : String) : Prop :=
  (∃ a ∈ n.addresses, a.type = "ExternalIP" ∧ a.address = ip) ∨
    ((∀ a ∈ n.addresses, a.type ≠ "ExternalIP") ∧
      ∃ a ∈ n.addresses, a.type = "InternalIP" ∧ a.address = ip)

/-- Which address `getNodeIP` returns for a node list: the first ready node with an address
decides, preferring its external address; without one, the first node of the list does. -/
structure NodeIPChoice (nodes : List Node) (ip : String) : Prop where
  ready : (∃ n ∈ nodes, n.isReady ∧ n.HasIP) →
    ∃ pre n post, nodes = pre ++ n :: post ∧ (∀ m ∈ pre, m.isReady → ¬ m.HasIP) ∧
      n.isReady ∧ n.PrefersExternal ip
  first : (∀ n ∈ nodes, n.isReady → ¬ n.HasIP) → ∀ n ∈ nodes.head?, n.HasIP →
    ∃ a ∈ n.addresses, a.IsIP ∧ a.address = ip
  empty : (∀ n ∈ nodes, n.isReady → ¬ n.HasIP) → (∀ n ∈ nodes.head?, ¬ n.HasIP) → ip = ""

/-! ### One node -/

theorem firstAddress_eq_none_iff (t : String) (l : List NodeAddress) :
    firstAddress t l = none ↔ ∀ a ∈ l, a.type ≠ t := by
  simp [firstAddress]

theorem firstAddress_eq_some {t ip : String} {l : List NodeAddress}
    (h : firstAddress t l = some ip) : ∃ a ∈ l, a.type = t ∧ a.address = ip := by
  obtain ⟨a, ha, rfl⟩ := Option.map_eq_some'.1 h
  exact ⟨a, List.mem_of_find?_eq_some ha, by simpa using List.find?_some ha, rfl⟩

/-- The address `getNodeIP` takes from a ready node: its first external address, else its
first internal one. -/
def Node.readyAddress (n : Node) : Option String :=
  firstAddress "ExternalIP" n.addresses <|> firstAddress "InternalIP" n.addresses

theorem Node.readyAddress_eq_none_iff (n : Node) : n.readyAddress = none ↔ ¬ n.HasIP := by
  simp [readyAddress, firstAddress_eq_none_iff, HasIP, NodeAddress.IsIP, imp_and, forall_and]

theorem Node.exists_readyAddress {n : Node} (h : n.HasIP) : ∃ ip, n.readyAddress = some ip :=
  Option.ne_none_iff_exists'.1 (mt n.readyAddress_eq_none_iff.1 (not_not.2 h))

theorem Node.prefersExternal_of_readyAddress {n : Node} {ip : String}
    (h : n.readyAddress = some ip) : n.PrefersExternal ip := by
  rcases (Option.orElse_eq_some _ _ _).1 h with he | ⟨he, hi⟩
  · exact .inl (firstAddress_eq_some he)
  · exact .inr ⟨(firstAddress_eq_none_iff _ _).1 he, firstAddress_eq_some hi⟩

/-! ### The loop over the nodes -/

/-- The loop is a search for the first ready node with an address, then that node's
address. -/
theorem readyNodeIP_eq_find (nodes : List Node) :
    readyNodeIP nodes =
      (nodes.find? fun n => n.isReady && decide n.HasIP).bind Node.readyAddress := by
  induction nodes with
  | nil => rfl
  | cons n ns ih =>
    change (if n.isReady then n.readyAddress <|> readyNodeIP ns else readyNodeIP ns) = _
    rw [List.find?_cons]
    by_cases hr : n.isReady
    · by_cases hi : n.HasIP
      · obtain ⟨ip, hip⟩ := Node.exists_readyAddress hi
        simp [hr, hi, hip]
      · simp [hr, hi, ih, n.readyAddress_eq_none_iff.2 hi]
    · simp [hr, ih]

/-- With no ready node that has an address, the loop finds nothing. -/
theorem readyNodeIP_eq_none {nodes : List Node} (h : ∀ n ∈ nodes, n.isReady → ¬ n.HasIP) :
    readyNodeIP nodes = none := by
  rw [readyNodeIP_eq_find, List.find?_eq_none.2 fun n hn => by simpa using h n hn]
  rfl

/-- With no ready node that has an address, only the first node is read, for its first
external or internal address. -/
theorem nodeIPOf_of_none_ready {nodes : List Node} (h : ∀ n ∈ nodes, n.isReady → ¬ n.HasIP) :
    nodeIPOf nodes = ((nodes.head?.bind fun n =>
      n.addresses.find? fun a => decide a.IsIP).map NodeAddress.address).getD "" := by
  cases nodes <;> simp only [nodeIPOf, readyNodeIP_eq_none h] <;> rfl

/-- **What `getNodeIP` returns for any node list.** -/
theorem nodeIPOf_choice (nodes : List Node) : NodeIPChoice nodes (nodeIPOf nodes) where
  ready := by
    rintro ⟨n, hn, hr, hi⟩
    obtain ⟨m, hm⟩ : ∃ m, nodes.find? (fun n => n.isReady && decide n.HasIP) = some m :=
      Option.ne_none_iff_exists'.1 fun h => List.find?_eq_none.1 h n hn (by simp [hr, hi])
    obtain ⟨hpm, pre, post, rfl, hpre⟩ := List.find?_eq_some.1 hm
    simp only [Bool.and_eq_true, decide_eq_true_eq] at hpm
    obtain ⟨ip, hip⟩ := Node.exists_readyAddress hpm.2
    have hval : nodeIPOf (pre ++ m :: post) = ip := by
      simp only [nodeIPOf, readyNodeIP_eq_find, hm, Option.some_bind, hip]
    refine ⟨pre, m, post, rfl, fun k hk hkr hki => by simpa [hkr, hki] using hpre k hk, hpm.1,
      hval ▸ Node.prefersExternal_of_readyAddress hip⟩
  first h n hn hi := by
    obtain ⟨a, ha⟩ : ∃ a, n.addresses.find? (fun a => decide a.IsIP) = some a :=
      Option.ne_none_iff_exists'.1 fun he =>
        let ⟨a, hmem, hip⟩ := hi
        List.find?_eq_none.1 he a hmem (by simpa using hip)
    rw [nodeIPOf_of_none_ready h, Option.mem_def.1 hn, Option.some_bind, ha]
    exact ⟨a, List.mem_of_find?_eq_some ha, by simpa using List.find?_some ha, rfl⟩
  empty h hf := by
    rw [nodeIPOf_of_none_ready h]
    cases hn : nodes.head? with
    | none => rfl
    | some n =>
      rw [Option.some_bind,
        List.find?_eq_none.2 fun a ha hip => hf n hn ⟨a, ha, by simpa using hip⟩]
      rfl

/-! ### The controller's call -/

/-- **Undisturbed, `getNodeIP` returns the address of the first ready node that has one, its
external one first; failing that, an address of the first node; failing that, the empty
string.** -/
theorem getNodeIP_run_quiet_choice (c : Cluster) (hq : c.ticks = []) :
    NodeIPChoice c.store.nodes (getNodeIP.run c).1 := by
  rw [getNodeIP_run_quiet hq]
  exact nodeIPOf_choice _

/-- Two ready nodes: the first reports only an internal address, the second an external one. -/
def internalFirst : Cluster :=
  { store := { nodes := [⟨[⟨"Ready", "True"⟩], [⟨"InternalIP", "10.0.0.1"⟩]⟩,
      ⟨[⟨"Ready", "True"⟩], [⟨"ExternalIP", "203.0.113.7"⟩]⟩] } }

theorem getNodeIP_run_quiet_choice_internalFirst :
    internalFirst.ticks = [] ∧
      NodeIPChoice internalFirst.store.nodes (getNodeIP.run internalFirst).1 :=
  ⟨rfl, getNodeIP_run_quiet_choice _ rfl⟩

/-- No ready node: the first reports no address, the second an external one. -/
def addresslessFirst : Cluster :=
  { store := { nodes := [⟨[], []⟩, ⟨[], [⟨"ExternalIP", "203.0.113.7"⟩]⟩] } }

/-- A ready node's external address is passed over for an earlier ready node's internal one,
and when no node is ready an address on any node but the first is never read. -/
theorem getNodeIP_passes_over_later_nodes :
    (∃ n ∈ internalFirst.store.nodes, n.isReady ∧ ∃ a ∈ n.addresses, a.type = "ExternalIP") ∧
      ¬ (∃ n ∈ internalFirst.store.nodes, n.isReady ∧
        ∃ a ∈ n.addresses, a.type = "ExternalIP" ∧ a.address = (getNodeIP.run internalFirst).1) ∧
      (∃ n ∈ addresslessFirst.store.nodes, n.HasIP) ∧ (getNodeIP.run addresslessFirst).1 = "" := by
  decide

/-! ### The placeholder in the access information -/

/-- Undisturbed, in node-port mode with the web Service stored, the web address is built from
its node ports and the node address. -/
theorem accessWebURL_run_quiet_nodePort (kn : KubeNova) (ns current : String) {c : Cluster}
    (hq : c.ticks = []) (hnp : kn.spec.web.exposeType = "nodeport") {svc : Service}
    (hs : c.store.services.get? ⟨ns, "kube-nova-web"⟩ = some svc) :
    (accessWebURL kn ns current).run c =
      (nodePortWebURL (webNodePorts svc.ports) (nodeIPOf c.store.nodes), c) := by
  have hi : ("nodeport" == "ingress") = false := rfl
  simp only [accessWebURL, hnp, hi, if_true, Client.run_bind, getObject_run_quiet hq,
    Kind.service, hs, Option.elim, getNodeIP_run_quiet hq]
  rfl

/-- **In node-port mode, when neither a ready node nor the first node reports an address, the
recorded web address carries the placeholder `<NODE-IP>`** (once the web Service has a node
port). -/
theorem accessWebURL_placeholder_of_no_address (kn : KubeNova) (ns current : String)
    (c : Cluster) (svc : Service) (hq : c.ticks = []) (hnp : kn.spec.web.exposeType = "nodeport")
    (hs : c.store.services.get? ⟨ns, "kube-nova-web"⟩ = some svc)
    (hport : 0 < (webNodePorts svc.ports).1 ∨ 0 < (webNodePorts svc.ports).2)
    (hready : ∀ n ∈ c.store.nodes, n.isReady → ¬ n.HasIP)
    (hfirst : ∀ n ∈ c.store.nodes.head?, ¬ n.HasIP) :
    ∃ pre post, ((accessWebURL kn ns current).run c).1 = pre ++ "<NODE-IP>" ++ post := by
  rw [accessWebURL_run_quiet_nodePort kn ns current hq hnp hs,
    (nodeIPOf_choice c.store.nodes).empty hready hfirst]
  simp only [nodePortWebURL, ne_eq, not_true_eq_false, if_false]
  split_ifs
  · exact ⟨"https://", _, String.append_assoc _ _ _⟩
  · exact ⟨"http://", _, String.append_assoc _ _ _⟩
  · omega

/-- A root in node-port mode. -/
def nodePortRoot : KubeNova :=
  { meta := { name := "demo", «namespace» := "nova" }
    spec := { sampleSpec with web := { exposeType := "nodeport" } } }

/-- `addresslessFirst` with the web Service of `nova` on node port 30080. -/
def addresslessFirstServed : Cluster :=
  { store := { addresslessFirst.store with
      services := GoMap.empty.insert ⟨"nova", "kube-nova-web"⟩
        { name := "kube-nova-web", type := "NodePort"
          ports := [{ name := "http", port := 80, targetPort := 80, nodePort := 30080 }] } } }

theorem accessWebURL_placeholder_of_no_address_addresslessFirst :
    (∃ n ∈ addresslessFirstServed.store.nodes, n.HasIP) ∧
      ∃ pre post, ((accessWebURL nodePortRoot "nova" "").run addresslessFirstServed).1 =
        pre ++ "<NODE-IP>" ++ post :=
  ⟨by decide, accessWebURL_placeholder_of_no_address nodePortRoot "nova" "" addresslessFirstServed
    { name := "kube-nova-web", type := "NodePort"
      ports := [{ name := "http", port := 80, targetPort := 80, nodePort := 30080 }] }
    rfl rfl rfl (by decide) (by decide) (by decide)⟩

end KubeNovaOperator
