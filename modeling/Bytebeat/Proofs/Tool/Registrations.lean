import Bytebeat.Tool.Registry

/-!
Runs on a registry: tools are registered one at a time or a package at a time, and some of that is refused.

A run is recorded as the tools that were offered to the registry. The first one offered under a name got in and all
later ones did not (`Recorded`), which decides what every observer shows (`Recorded.shows`). No effect of a step
touches the entries that are there (`Effect.isPrefix`).
-/

namespace Bytebeat.Registry

inductive Step where
  | register (tool : Tool)
  | discover (package : Text)

def Step.take (packages : Packages) (r : Registry) : Step → Registry × Except RegistryError (Option Nat)
  | register tool =>
    match r.register tool with
    | .ok extended => (extended, .ok none)
    | .error e => (r, .error e)
  | discover package =>
    let (r, answer) := r.discover package packages
    (r, answer.map some)

def after (packages : Packages) (steps : List Step) : Registry :=
  steps.foldl (fun r step => (step.take packages r).1) empty

/-! ## What was offered -/

structure Offer where
  tool : Tool
  accepted : Bool

def offers (r : Registry) : List ToolClass → List Offer
  | [] => []
  | .error _ :: _ => []
  | .ok tool :: rest =>
    match r.register tool with
    | .error _ => [⟨tool, false⟩]
    | .ok extended => ⟨tool, true⟩ :: extended.offers rest

def Step.offers (packages : Packages) (r : Registry) : Step → List Offer
  | register tool => r.offers [.ok tool]
  | discover package =>
    match packages package with
    | .ok classes => r.offers classes
    | .error _ => []

def record (packages : Packages) (r : Registry) : List Step → List Offer
  | [] => []
  | step :: rest => step.offers packages r ++ record packages (step.take packages r).1 rest

/-- The first offer under each name is accepted, and no later one is. -/
def FirstCome (offers : List Offer) : Prop :=
  ∀ before o later, offers = before ++ o :: later →
    (o.accepted = true ↔ ∀ earlier ∈ before, earlier.tool.name ≠ o.tool.name)

def nameField? : Value → Option Value
  | .dict fields => fields.lookup ("name" : Text)
  | _ => none

/-- What all observers of a registry show after some offers. -/
structure Shows (r : Registry) (offers : List Offer) : Prop where
  distinct : r.names.Nodup
  names : r.names = (offers.filter Offer.accepted).map fun o => o.tool.name
  get : ∀ name, r.get? name = ((offers.filter Offer.accepted).find? fun o => o.tool.name = name).map Offer.tool
  named : ∀ name tool, r.get? name = some tool → tool.name = name
  missing : ∀ name, r.get? name = none ↔ name ∉ r.names
  contains : ∀ name, r.contains name = true ↔ name ∈ r.names
  size : r.size = r.names.length
  listed : r.describe.map some = r.names.map fun name => (r.get? name).map Tool.describe
  listedNames : r.describe.map nameField? = r.names.map fun name => some (.text name)

variable {packages : Packages} {r r' : Registry} {tool : Tool}

theorem register_cases (r : Registry) (tool : Tool) :
    (tool.name ∈ r.names ∧ r.register tool = .error (.alreadyRegistered tool.name)) ∨
    (tool.name ∉ r.names ∧ ∃ r', r.register tool = .ok r' ∧ r'.tools = r.tools ++ [tool]) := by
  by_cases taken : tool.name ∈ r.names
  · exact .inl ⟨taken, dif_pos taken⟩
  · exact .inr ⟨taken, _, dif_neg taken, rfl⟩

inductive Registers (r : Registry) (done : Nat) : List ToolClass → Registry × Except RegistryError Nat → Prop where
  | all {found : List Tool} {r' : Registry} (tools : r'.tools = r.tools ++ found) :
      Registers r done (found.map .ok) (r', .ok (done + found.length))
  | collided {before : List Tool} {tool : Tool} {rest : List ToolClass} {r' : Registry}
      (tools : r'.tools = r.tools ++ before) (taken : tool.name ∈ r'.names) :
      Registers r done (before.map .ok ++ .ok tool :: rest) (r', .error (.alreadyRegistered tool.name))
  | unbuilt {before : List Tool} {message : Text} {rest : List ToolClass} {r' : Registry}
      (tools : r'.tools = r.tools ++ before) :
      Registers r done (before.map .ok ++ .error message :: rest) (r', .error (.notBuilt message))

theorem Registers.cons {done : Nat} {classes : List ToolClass} {outcome : Registry × Except RegistryError Nat}
    (extended : r'.tools = r.tools ++ [tool]) (registers : r'.Registers (done + 1) classes outcome) :
    r.Registers done (.ok tool :: classes) outcome := by
  have goesOn {s : Registry} {more : List Tool} (tools : s.tools = r'.tools ++ more) :
      s.tools = r.tools ++ tool :: more := by
    rw [tools, extended, List.append_assoc, List.singleton_append]
  cases registers with
  | @all found s tools =>
      have registers : r.Registers done ((tool :: found).map .ok) (s, .ok (done + (tool :: found).length)) :=
        .all (goesOn tools)
      rwa [List.length_cons, Nat.add_comm found.length, ← Nat.add_assoc] at registers
  | @collided before refused rest s tools taken =>
      show r.Registers done ((tool :: before).map .ok ++ .ok refused :: rest) _
      exact .collided (goesOn tools) taken
  | @unbuilt before message rest s tools =>
      show r.Registers done ((tool :: before).map .ok ++ .error message :: rest) _
      exact .unbuilt (goesOn tools)

structure Recorded (r : Registry) (offers : List Offer) : Prop where
  tools : r.tools = (offers.filter Offer.accepted).map Offer.tool
  present : ∀ o ∈ offers, o.tool.name ∈ r.names
  firstCome : FirstCome offers

variable {offers : List Offer}

theorem FirstCome.concat (first : FirstCome offers) {o : Offer}
    (last : o.accepted = true ↔ ∀ earlier ∈ offers, earlier.tool.name ≠ o.tool.name) :
    FirstCome (offers ++ [o]) := by
  intro before p later split
  obtain rfl | ⟨later, q, rfl⟩ := List.eq_nil_or_concat later
  · obtain ⟨rfl, same⟩ := List.append_inj' split rfl
    cases same
    exact last
  · rw [List.concat_eq_append, ← List.cons_append, ← List.append_assoc] at split
    exact first before p later (List.append_inj' split rfl).1

theorem names_of_tools {added : List Tool} (tools : r'.tools = r.tools ++ added) :
    r'.names = r.names ++ added.map Tool.name := by
  rw [names, tools, List.map_append, ← names]

theorem Recorded.accept (recorded : Recorded r offers) (free : tool.name ∉ r.names)
    (tools : r'.tools = r.tools ++ [tool]) : Recorded r' (offers ++ [⟨tool, true⟩]) := by
  have names : r'.names = r.names ++ [tool.name] := names_of_tools tools
  refine ⟨?_, ?_, ?_⟩
  · rw [tools, recorded.tools]
    simp
  · intro o mem
    rw [names, List.mem_append]
    obtain before | last := List.mem_append.mp mem
    · exact .inl (recorded.present o before)
    · rw [List.mem_singleton.mp last]
      exact .inr (List.mem_singleton_self _)
  · refine recorded.firstCome.concat (iff_of_true rfl ?_)
    intro earlier mem same
    exact free (same ▸ recorded.present earlier mem)

theorem Recorded.refuse (recorded : Recorded r offers) (taken : tool.name ∈ r.names) :
    Recorded r (offers ++ [⟨tool, false⟩]) := by
  refine ⟨?_, ?_, ?_⟩
  · rw [recorded.tools]
    simp
  · intro o mem
    obtain before | last := List.mem_append.mp mem
    · exact recorded.present o before
    · rwa [List.mem_singleton.mp last]
  · refine recorded.firstCome.concat (iff_of_false Bool.false_ne_true ?_)
    intro fresh
    rw [names, recorded.tools, List.map_map] at taken
    obtain ⟨o, mem, same⟩ := List.mem_map.mp taken
    exact fresh o (List.mem_filter.mp mem |>.1) same

theorem Recorded.registerAll (recorded : Recorded r offers) (done : Nat) (classes : List ToolClass) :
    Recorded (r.registerAll done classes).1 (offers ++ r.offers classes) := by
  induction classes generalizing r offers done with
  | nil =>
      rw [Registry.offers, List.append_nil]
      exact recorded
  | cons first classes ih =>
      cases first with
      | error message =>
          rw [Registry.offers, List.append_nil]
          exact recorded
      | ok tool =>
          obtain ⟨taken, refused⟩ | ⟨free, next, accepted, extended⟩ := register_cases r tool
          · rw [Registry.registerAll, Registry.offers, refused]
            exact recorded.refuse taken
          · rw [Registry.registerAll, Registry.offers, accepted, List.append_cons]
            exact ih (recorded.accept free extended) (done + 1)

theorem Recorded.take (recorded : Recorded r offers) (packages : Packages) (step : Step) :
    Recorded (step.take packages r).1 (offers ++ step.offers packages r) := by
  cases step with
  | register tool =>
      have one := recorded.registerAll 0 [.ok tool]
      obtain ⟨-, refused⟩ | ⟨-, next, accepted, -⟩ := register_cases r tool
      · simpa only [Registry.registerAll, Step.take, Step.offers, refused] using one
      · simpa only [Registry.registerAll, Step.take, Step.offers, accepted] using one
  | discover package =>
      cases found : packages package with
      | error e => simpa only [Step.take, Step.offers, discover, found, List.append_nil] using recorded
      | ok classes => simpa only [Step.take, Step.offers, discover, found] using recorded.registerAll 0 classes

theorem Recorded.run (recorded : Recorded r offers) (packages : Packages) (steps : List Step) :
    Recorded (steps.foldl (fun r step => (step.take packages r).1) r) (offers ++ record packages r steps) := by
  induction steps generalizing r offers with
  | nil =>
      rw [record, List.append_nil]
      exact recorded
  | cons step steps ih =>
      rw [record, ← List.append_assoc, List.foldl_cons]
      exact ih (recorded.take packages step)

/-! ## What a registry shows -/

theorem get?_of_mem (mem : tool ∈ r.tools) : r.get? tool.name = some tool := by
  obtain ⟨before, later, split⟩ := List.append_of_mem mem
  refine List.find?_eq_some_iff_append.mpr ⟨decide_eq_true rfl, before, later, split, ?_⟩
  have distinct := r.distinct
  rw [split, List.map_append, List.map_cons, List.nodup_append] at distinct
  intro earlier held
  simpa using distinct.2.2 _ (List.mem_map_of_mem held) _ List.mem_cons_self

theorem get?_eq_none_iff {name : Text} : r.get? name = none ↔ name ∉ r.names := by
  simp [get?, names, List.find?_eq_none]

theorem map_describe (r : Registry) :
    r.describe.map some = r.names.map fun name => (r.get? name).map Tool.describe := by
  rw [describe, names, List.map_map, List.map_map]
  apply List.map_congr_left
  intro tool mem
  rw [Function.comp_apply, Function.comp_apply, get?_of_mem mem, Option.map_some]

theorem map_nameField? (r : Registry) : r.describe.map nameField? = r.names.map fun name => some (.text name) := by
  rw [describe, names, List.map_map, List.map_map]
  rfl

theorem Recorded.shows (recorded : Recorded r offers) : r.Shows offers where
  distinct := r.distinct
  names := by rw [Registry.names, recorded.tools, List.map_map]; rfl
  get name := by rw [get?, recorded.tools, List.find?_map]; rfl
  named name tool found := by simpa using List.find?_some found
  missing name := get?_eq_none_iff
  contains name := List.contains_iff_mem
  size := (List.length_map _).symm
  listed := map_describe r
  listedNames := map_nameField? r

example : (after toolsOfPackage [.register Tool.packCode, .discover "tools", .register Tool.unpackCode]).names =
    (["pack_code", "code_size", "format_code", "unpack_code"] : List Text) := by
  decide

end Bytebeat.Registry
