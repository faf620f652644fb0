import PropertyLowering.Resolution
import PropertyLowering.Proofs.Registry.Run

/-!
Chains of generic definitions, closed over arguments.

A definition derives from the next one over a list of its own parameters and of types. So the
arguments of the last definition are those of the first, put through one list after another, and
that is what the walk along the bases of an instance finds. An instance that is held already is
taken as it is, with whatever it derives from.
-/

namespace PropertyLowering

/-- A definition over arguments. -/
structure Application where
  definition : Ident
  args : List Ident

/-- An argument of a base: a parameter of the definition, by its position, or a type. -/
inductive BaseArg where
  | param (position : Nat)
  | type (type : Ident)

namespace BaseArg

/-- What an argument stands for when the parameters have values. -/
def value (values : List Ident) : BaseArg → Ident
  | param position => values.getD position .empty
  | type t => t

/-- The argument makes sense on a definition with the given parameters. -/
def Fits (r : Registry) (params : List Ident) : BaseArg → Prop
  | param position => position < params.length
  | type t => r.contains t = true ∧ t ∉ params

end BaseArg

/-- A step along a chain: the next definition and what it is applied to. -/
structure Link where
  pattern : List BaseArg
  definition : Ident

namespace Application

/-- The instance that an application stands for. -/
def id (a : Application) : Ident := .ofInstance a.definition a.args

/-- The application that the base of a definition comes to. -/
def next (a : Application) (link : Link) : Application :=
  ⟨link.definition, link.pattern.map (·.value a.args)⟩

/-- The applications along a chain. -/
def along (a : Application) : List Link → List Application
  | [] => [a]
  | link :: links => a :: along (a.next link) links

/-- The last application of a chain. -/
def last (a : Application) : List Link → Application
  | [] => a
  | link :: links => (a.next link).last links

/-- A property of each application and the one after it. -/
def Consecutive (P : Application → Option Application → Prop) : List Application → Prop
  | [] => True
  | a :: as => P a as.head? ∧ Consecutive P as

@[simp] lemma length_along (a : Application) (links : List Link) :
    (a.along links).length = links.length + 1 := by
  induction links generalizing a with
  | nil => rfl
  | cons link links ih => rw [along, List.length_cons, ih, List.length_cons]

@[simp] lemma head?_along (a : Application) (links : List Link) :
    (a.along links).head? = some a := by
  cases links <;> rfl

lemma dropLast_along_append (a : Application) (links : List Link) :
    (a.along links).dropLast ++ [a.last links] = a.along links := by
  induction links generalizing a with
  | nil => rfl
  | cons link links ih =>
    have hne : (a.next link).along links ≠ [] := by cases links <;> simp [along]
    rw [along, List.dropLast_cons_of_ne_nil hne, List.cons_append, last, ih]

lemma Consecutive.last {P : Application → Option Application → Prop} {a : Application}
    {links : List Link} (h : Consecutive P (a.along links)) : P (a.last links) none := by
  induction links generalizing a with
  | nil => exact h.1
  | cons link links ih => exact ih h.2

lemma Consecutive.imp {P Q : Application → Option Application → Prop} {as : List Application}
    (hpq : ∀ a ∈ as, ∀ next, P a next → Q a next) (h : Consecutive P as) : Consecutive Q as := by
  induction as with
  | nil => trivial
  | cons a as ih =>
    exact ⟨hpq a List.mem_cons_self _ h.1, ih (fun b hb => hpq b (List.mem_cons_of_mem a hb)) h.2⟩

end Application

namespace TypeDecl

lemma lookup_zip_of_notMem {params args : List Ident} {type : Ident} (h : type ∉ params) :
    (params.zip args).reverse.lookup type = none := by
  rw [List.lookup_eq_none_iff]
  rintro ⟨param, arg⟩ hmem
  have hparam := (List.of_mem_zip (List.mem_reverse.mp hmem)).1
  simp only [bne_iff_ne, ne_eq]
  rintro rfl
  exact h hparam

lemma substitute_of_notMem {params args : List Ident} {type : Ident} (h : type ∉ params) :
    substitute params args type = type := by
  rw [substitute, lookup_zip_of_notMem h, Option.getD_none]

lemma substitute_getD {params args : List Ident} (hnodup : params.Nodup)
    (hlen : params.length = args.length) {n : Nat} (hn : n < params.length) (default : Ident) :
    substitute params args (params.getD n default) = args.getD n default := by
  suffices hlookup : (params.zip args).reverse.lookup (params.getD n default) =
      some (args.getD n default) by
    rw [substitute, hlookup, Option.getD_some]
  induction params generalizing args n with
  | nil => cases hn
  | cons param params ih =>
    obtain ⟨arg, args, rfl⟩ := List.exists_cons_of_length_eq_add_one hlen.symm
    rw [List.nodup_cons] at hnodup
    rw [List.zip_cons_cons, List.reverse_cons, List.lookup_append]
    cases n with
    | zero =>
      simp only [List.getD_cons_zero]
      rw [lookup_zip_of_notMem hnodup.1]
      simp
    | succ n =>
      simp only [List.getD_cons_succ]
      rw [ih hnodup.2 (by simpa using hlen) (by simpa using hn), Option.some_or]

end TypeDecl

lemma BaseArg.substitute_value {r : Registry} {params args : List Ident} (hnodup : params.Nodup)
    (hlen : params.length = args.length) {a : BaseArg} (h : a.Fits r params) :
    TypeDecl.substitute params args (a.value params) = a.value args := by
  cases a with
  | param position => exact TypeDecl.substitute_getD hnodup hlen h .empty
  | type t => exact TypeDecl.substitute_of_notMem h.2

namespace Registry

/-- A registered generic definition, with parameters that differ. -/
structure IsGeneric (r : Registry) (definition : Ident) (d : TypeDecl) : Prop where
  find : r.find? definition = some d
  isDefinition : d.flags.isDefinition = true
  params : d.params ≠ []
  nodup : d.params.Nodup

/-- A chain of generic definitions, each of which derives from the next over some arguments. -/
inductive Chain (r : Registry) : Ident → List Link → Prop where
  | last {definition d} (generic : r.IsGeneric definition d) : Chain r definition []
  | link {definition d link links} (generic : r.IsGeneric definition d)
      (base : d.base = some (.generic link.definition (link.pattern.map (·.value d.params))))
      (applied : link.pattern ≠ []) (fits : ∀ a ∈ link.pattern, a.Fits r d.params)
      (rest : Chain r link.definition links) :
      Chain r definition (link :: links)

/-- The instance of an application is registered, and derives from the one that comes next. -/
def Holds (r : Registry) (a : Application) (next : Option Application) : Prop :=
  ∃ t, r.find? a.id = some t ∧ t.definition = some a.definition ∧ t.args = a.args ∧
    ∀ b ∈ next, t.baseType = some b.id

/-- The instance of an application is missing, or it is registered and derives from the one that
comes next, which is registered as well. -/
def MissingOrWhole (r : Registry) (a : Application) (next : Option Application) : Prop :=
  r.contains a.id = false ∨ r.Holds a next ∧ ∀ b ∈ next, r.contains b.id = true

open Application

variable {r s : Registry} {a : Application} {links : List Link} {ts : List TypeDecl}

lemma Chain.exists_generic {definition : Ident} (h : r.Chain definition links) :
    ∃ d, r.IsGeneric definition d := by
  cases h with
  | last generic => exact ⟨_, generic⟩
  | link generic => exact ⟨_, generic⟩

lemma Chain.args_ne_nil (h : r.Chain a.definition links) (hadds : r.Adds a.definition a.args ts) :
    a.args ≠ [] := by
  obtain ⟨d, hd⟩ := h.exists_generic
  obtain ⟨e, hcheck, -⟩ := hadds.held_or_snoc
  obtain ⟨hfind, -, hlen, -⟩ := checkArguments_eq_ok.mp hcheck
  obtain rfl := Option.some.inj (hfind.symm.trans hd.find)
  have hpos := List.length_pos_iff.mpr hd.params
  rw [hlen] at hpos
  exact List.length_pos_iff.mp hpos

lemma Chain.args_last_ne_nil (h : r.Chain a.definition links) (hargs : a.args ≠ []) :
    (a.last links).args ≠ [] := by
  induction links generalizing a with
  | nil => exact hargs
  | cons link links ih =>
    cases h with
    | link _ _ applied _ rest => exact ih (a := a.next link) rest (by simpa [next] using applied)

lemma holds_of_contains (hready : Consecutive r.MissingOrWhole (a.along links))
    (hheld : r.contains a.id = true) : Consecutive r.Holds (a.along links) := by
  induction links generalizing a with
  | nil => exact ⟨(hready.1.resolve_left (by simp [hheld])).1, trivial⟩
  | cons link links ih =>
    obtain ⟨hholds, hnext⟩ := hready.1.resolve_left (by simp [hheld])
    exact ⟨hholds, ih hready.2 (hnext _ (head?_along ..))⟩

lemma Holds.insert {b : Application} {next : Option Application} {t : TypeDecl}
    (h : r.Holds b next) (hne : t.id ≠ b.id) : (r.insert t).Holds b next := by
  obtain ⟨u, hu, hrest⟩ := h
  exact ⟨u, by rw [find?_insert, if_neg hne, hu], hrest⟩

lemma holds_newInstance (d : TypeDecl) {next : Option Application}
    (hnext : ∀ b ∈ next, d.base.map (·.target d.params a.args) = some b.id) :
    (s.insert (r.newInstance d a.definition a.args)).Holds a next :=
  ⟨_, by rw [find?_insert]; exact if_pos rfl, rfl, rfl, hnext⟩

/-- Closing the first definition of a chain makes or finds the instances of all of them. -/
lemma holds_insertAll (hchain : r.Chain a.definition links) (hadds : r.Adds a.definition a.args ts)
    (hready : Consecutive r.MissingOrWhole (a.along links))
    (hnodup : ((a.along links).map Application.id).Nodup) :
    Consecutive (r.insertAll ts).Holds (a.along links) := by
  induction links generalizing a ts with
  | nil =>
    obtain ⟨d, -, ⟨hheld, rfl⟩ | ⟨us, rfl, -⟩⟩ := hadds.held_or_snoc
    · exact holds_of_contains hready hheld
    · rw [insertAll_append]
      exact ⟨holds_newInstance d (by simp), trivial⟩
  | cons link links ih =>
    obtain ⟨d, hcheck, ⟨hheld, rfl⟩ | ⟨us, rfl, hbases⟩⟩ := hadds.held_or_snoc
    · exact holds_of_contains hready hheld
    · rw [along, List.map_cons, List.nodup_cons] at hnodup
      cases hchain with
      | @link definition e link links generic base applied fits rest =>
        obtain rfl := Option.some.inj ((find?_of_checkArguments hcheck).symm.trans generic.find)
        -- The arguments of the base are those of the next application.
        have hsubst : (link.pattern.map (·.value d.params)).map
            (TypeDecl.substitute d.params a.args) = (a.next link).args := by
          rw [next, List.map_map, List.map_inj_left]
          exact fun b hb => BaseArg.substitute_value generic.nodup
            (checkArguments_eq_ok.mp hcheck).2.2.1 (fits b hb)
        have hnext := hbases _ _ base
        rw [hsubst] at hnext
        have hrest := ih (a := a.next link) rest hnext hready.2 hnodup.2
        rw [insertAll_append]
        refine ⟨holds_newInstance d ?_, hrest.imp fun b hb next h => h.insert ?_⟩
        · intro b hb
          rw [head?_along, Option.mem_some_iff] at hb
          rw [base, ← hb, Option.map_some, BaseRef.target, hsubst]
          rfl
        · exact fun heq => hnodup.1 (List.mem_map.mpr ⟨b, hb, heq.symm⟩)

lemma take_ancestryWithin (h : Consecutive s.Holds (a.along links)) {n : Nat}
    (hn : links.length < n) :
    (s.catalog.ancestryWithin n a.id).take (links.length + 1) =
      (a.along links).map Application.id := by
  induction links generalizing a n with
  | nil =>
    obtain ⟨n, rfl⟩ := Nat.exists_eq_add_one_of_ne_zero (Nat.ne_zero_of_lt hn)
    rw [Catalog.ancestryWithin]
    rfl
  | cons link links ih =>
    obtain ⟨n, rfl⟩ := Nat.exists_eq_add_one_of_ne_zero (Nat.ne_zero_of_lt hn)
    obtain ⟨⟨t, hfind, -, -, hbase⟩, hrest⟩ := h
    rw [head?_along] at hbase
    have hnext : s.catalog.baseOf? a.id = some (a.next link).id := by
      rw [Catalog.baseOf?, catalog_find?, hfind, Option.bind_some, hbase _ rfl]
    rw [Catalog.ancestryWithin, hnext, List.length_cons, List.take_succ_cons, along, List.map_cons]
    exact congrArg (a.id :: ·) (ih hrest (Nat.lt_of_succ_lt_succ hn))

lemma Holds.definitionOf? {next : Option Application} (h : s.Holds a next) :
    s.catalog.definitionOf? a.id = some a.definition := by
  obtain ⟨t, hfind, hdef, -⟩ := h
  rw [Catalog.definitionOf?, catalog_find?, hfind, Option.bind_some, hdef]

lemma Holds.argsOf {next : Option Application} (h : s.Holds a next) :
    s.catalog.argsOf a.id = a.args := by
  obtain ⟨t, hfind, -, hargs, -⟩ := h
  rw [Catalog.argsOf, catalog_find?, hfind]
  exact hargs

lemma find?_chain {as : List Application} {last : Application}
    (h : Consecutive s.Holds (as ++ [last])) (hlast : ∀ b ∈ as, b.definition ≠ last.definition) :
    ((as ++ [last]).map Application.id).find?
        (s.catalog.definitionOf? · == some last.definition) = some last.id := by
  induction as with
  | nil => simp [h.1.definitionOf?]
  | cons b as ih =>
    have hb := hlast b List.mem_cons_self
    have hother : (s.catalog.definitionOf? b.id == some last.definition) = false := by
      simpa [h.1.definitionOf?] using hb
    rw [List.cons_append, List.map_cons, List.find?_cons_of_neg (by simp [hother])]
    exact ih h.2 fun c hc => hlast c (List.mem_cons_of_mem b hc)

end Registry

namespace RegistryM

open Registry Application

/-- **The type of a property's values survives the closing of its definition.** Let definitions form
a chain, and let each instance along it be missing, or be registered together with what it derives
from. Then closing the first definition makes an instance whose walk along bases starts with the
instances of all of them, over the arguments put through one list after another, and the type of
the values for the last definition is the first of its arguments. -/
theorem valueType_instantiate {r s : Registry} {first : Application} {links : List Link}
    (hchain : r.Chain first.definition links) (hdepth : links.length < Catalog.maxDepth)
    (hlast : ∀ b ∈ (first.along links).dropLast, b.definition ≠ (first.last links).definition)
    (hnodup : ((first.along links).map Application.id).Nodup)
    (hready : Consecutive r.MissingOrWhole (first.along links)) {type : Ident}
    (h : outcome (instantiate first.definition first.args) r = (.ok type, s)) (field : String)
    (span : Span) :
    (s.catalog.ancestry type).take (links.length + 1) = (first.along links).map Application.id ∧
      ∃ value rest, (first.last links).args = value :: rest ∧
        s.catalog.valueType type (first.last links).definition field span = .ok value := by
  obtain ⟨ts, hts, rfl, rfl⟩ := Registration.instances_of_outcome
    (x := .instantiate first.definition first.args) h
  rw [Registration.declarations, List.append_nil]
  have hadds := adds_of_missing hts
  have hholds := holds_insertAll hchain hadds hready hnodup
  have hwalk : ((r.insertAll ts).catalog.ancestry first.id).take (links.length + 1) =
      (first.along links).map Application.id := take_ancestryWithin hholds hdepth
  refine ⟨hwalk, ?_⟩
  obtain ⟨value, rest, hargs⟩ := List.exists_cons_of_ne_nil
    (hchain.args_last_ne_nil (hchain.args_ne_nil hadds))
  have hfind : ((r.insertAll ts).catalog.ancestry first.id).find?
      ((r.insertAll ts).catalog.definitionOf? · == some (first.last links).definition) =
      some (first.last links).id := by
    rw [← List.take_append_drop (links.length + 1) (Catalog.ancestry _ _), hwalk, List.find?_append,
      ← dropLast_along_append, find?_chain (by rwa [dropLast_along_append]) hlast, Option.some_or]
  refine ⟨value, rest, hargs, ?_⟩
  have hid : Registration.id (.instantiate first.definition first.args) = first.id := rfl
  rw [Catalog.valueType, hid, hfind, Option.bind_some, hholds.last.argsOf, hargs]
  rfl

end RegistryM

namespace Registry.Chain

open Application RegistryM

def object : Ident := (TypeDecl.reference "object").id

def bool : Ident := (TypeDecl.value "bool").id

/-- A definition that derives from another one over one of its own parameters. -/
def above (name : TypeName) (base : TypeDecl) (param : String) : TypeDecl :=
  (TypeDecl.ofName name .reference).derivedFromGeneric base.id
    [(TypeDecl.parameterOf name param).id]

def family : TypeDecl := TypeDecl.reference "Family`1"

def middle : TypeDecl := above (.global "Middle`1") family "T"

def derived : TypeDecl := above (.global "Derived`2") middle "TValue"

lemma isGeneric_generic {r : Registry} {t : TypeDecl} {params : List String}
    (h : r.find? t.id = some (t.generic params)) (hparams : params ≠ [])
    (hnodup : (t.generic params).params.Nodup) : r.IsGeneric t.id (t.generic params) :=
  ⟨h, rfl, by simpa [TypeDecl.generic] using hparams, hnodup⟩

/-- The definitions of the family with their parameters. -/
def definitions : List TypeDecl :=
  (Registration.registerGeneric family ["T"]).declarations ++
    (Registration.registerGeneric middle ["T"]).declarations ++
    (Registration.registerGeneric derived ["TOwner", "TValue"]).declarations

/-- A registry that holds them. -/
def stock : Registry := Registry.builtins.insertAll definitions

def first : Application := ⟨derived.id, [object, bool]⟩

def links : List Link := [⟨[.param 1], middle.id⟩, ⟨[.param 0], family.id⟩]

lemma along_links :
    first.along links = [⟨derived.id, [object, bool]⟩, ⟨middle.id, [bool]⟩, ⟨family.id, [bool]⟩] :=
  rfl

lemma nodup_stock :
    ((builtinTypes ++ definitions).map (·.id) ++ (first.along links).map Application.id).Nodup := by
  decide +kernel

lemma find?_stock {t : TypeDecl} {params : List String} (h : t.generic params ∈ definitions) :
    stock.find? t.id = some (t.generic params) := by
  have hnodup := (List.nodup_append.mp nodup_stock).1
  rw [List.map_append] at hnodup
  exact find?_insertAll_of_mem (List.nodup_append.mp hnodup).2.1 h

lemma contains_stock {t : TypeDecl} (h : t ∈ builtinTypes) : stock.contains t.id = true :=
  contains_builtins_insertAll.mpr (List.mem_map_of_mem (List.mem_append_left _ h))

lemma not_contains_stock {definition : Ident} {args : List Ident}
    (h : ⟨definition, args⟩ ∈ first.along links) :
    stock.contains (.ofInstance definition args) = false :=
  not_contains_builtins_insertAll fun hmem =>
    (List.nodup_append.mp nodup_stock).2.2 _ hmem _ (List.mem_map_of_mem h) rfl

lemma find?_family : stock.find? family.id = some (family.generic ["T"]) :=
  find?_stock (by simp [definitions, Registration.declarations])

lemma find?_middle : stock.find? middle.id = some (middle.generic ["T"]) :=
  find?_stock (by simp [definitions, Registration.declarations])

lemma find?_derived : stock.find? derived.id = some (derived.generic ["TOwner", "TValue"]) :=
  find?_stock (by simp [definitions, Registration.declarations])

lemma contains_object : stock.contains object = true := contains_stock (by simp [builtinTypes])

lemma contains_bool : stock.contains bool = true := contains_stock (by simp [builtinTypes])

lemma not_contains_family : stock.contains (.ofInstance family.id [bool]) = false :=
  not_contains_stock (by simp [along_links])

lemma not_contains_middle : stock.contains (.ofInstance middle.id [bool]) = false :=
  not_contains_stock (by simp [along_links])

lemma not_contains_derived : stock.contains (.ofInstance derived.id [object, bool]) = false :=
  not_contains_stock (by simp [along_links])

lemma exists_applications_stock : ∃ n, stock.applications + 1 = n + 3 := by
  have hapart : [object, bool].Nodup := by decide +kernel
  have hle : 2 ≤ stock.applications :=
    length_le_applications hapart (by simp [contains_object, contains_bool])
  exact ⟨stock.applications - 2, by omega⟩

lemma substitute_middle : [(TypeDecl.parameterOf (.global "Middle`1") "T").id].map
    (TypeDecl.substitute (middle.generic ["T"]).params [bool]) = [bool] := by
  decide +kernel

lemma substitute_derived : [(TypeDecl.parameterOf (.global "Derived`2") "TValue").id].map
    (TypeDecl.substitute (derived.generic ["TOwner", "TValue"]).params [object, bool]) =
    [bool] := by
  decide +kernel

lemma exists_missing_middle (n : Nat) :
    ∃ ts, stock.missing (n + 2) middle.id [bool] = .ok ts := by
  have hlast : stock.checkArguments family.id [bool] = .ok (family.generic ["T"]) :=
    checkArguments_generic find?_family rfl (by simpa using contains_bool)
  have hnext : stock.checkArguments middle.id [bool] = .ok (middle.generic ["T"]) :=
    checkArguments_generic find?_middle rfl (by simpa using contains_bool)
  have hlast_missing := missing_of_last (n := n) hlast not_contains_family (by rintro _ _ ⟨⟩)
  exact ⟨_, missing_of_generic hnext not_contains_middle rfl
    (by rw [substitute_middle]; exact hlast_missing)⟩

lemma exists_missing_derived (n : Nat) :
    ∃ ts, stock.missing (n + 3) derived.id [object, bool] = .ok ts := by
  have hfirst : stock.checkArguments derived.id [object, bool] =
      .ok (derived.generic ["TOwner", "TValue"]) :=
    checkArguments_generic find?_derived rfl (by simp [contains_object, contains_bool])
  obtain ⟨ts, hts⟩ := exists_missing_middle n
  exact ⟨_, missing_of_generic hfirst not_contains_derived rfl
    (by rw [substitute_derived]; exact hts)⟩

theorem valueType_derived :
    ∃ type s, outcome (instantiate first.definition first.args) stock = (.ok type, s) ∧
      s.catalog.valueType type family.id "XProperty" .unknown = .ok bool := by
  have hparams : (derived.generic ["TOwner", "TValue"]).params.Nodup := by decide +kernel
  have hchain : stock.Chain first.definition links := by
    refine .link (isGeneric_generic find?_derived (by simp) hparams) rfl (by simp) ?_
      (.link (isGeneric_generic find?_middle (by simp) (by simp [TypeDecl.generic])) rfl (by simp)
        ?_ (.last (isGeneric_generic find?_family (by simp) (by simp [TypeDecl.generic]))))
    · simp [BaseArg.Fits, TypeDecl.generic]
    · simp [BaseArg.Fits, TypeDecl.generic]
  obtain ⟨n, hn⟩ := exists_applications_stock
  obtain ⟨ts, hts⟩ := exists_missing_derived n
  have hout := outcome_instantiate derived.id [object, bool] stock
  rw [hn, hts] at hout
  refine ⟨_, _, hout, ?_⟩
  have hready : Consecutive stock.MissingOrWhole (first.along links) :=
    ⟨.inl not_contains_derived, .inl not_contains_middle, .inl not_contains_family, trivial⟩
  obtain ⟨-, value, rest, hargs, hvalue⟩ := valueType_instantiate hchain (by decide)
    (by decide +kernel) (List.nodup_append.mp nodup_stock).2.1 hready hout "XProperty" .unknown
  cases hargs
  exact hvalue

/-- A definition with a closed base, which is an instance that nobody has made. -/
def earlier : TypeDecl :=
  (TypeDecl.reference "A::Box`1").derivedFrom (.ofInstance family.id [bool])

/-- A definition of the same identity with a generic base. -/
def later : TypeDecl := above ⟨"Box`1", ["A"]⟩ family "T"

/-- The earlier definition is closed before the later one takes its place. -/
def replacing : List Action :=
  [.registration (.registerGeneric family ["T"]), .registration (.registerGeneric earlier ["T"]),
    .registration (.instantiate earlier.id [bool]), .registration (.registerGeneric later ["T"])]

/-- What the registrations before the closing store. -/
def before : List TypeDecl :=
  (Registration.registerGeneric family ["T"]).declarations ++
    (Registration.registerGeneric earlier ["T"]).declarations

lemma runAll_replacing :
    ∃ t, t.id = .ofInstance earlier.id [bool] ∧ t.definition = some earlier.id ∧ t.args = [bool] ∧
      t.baseType = some (.ofInstance family.id [bool]) ∧
      Action.runAll .builtins replacing =
        Registry.builtins.insertAll
          (before ++ t :: (Registration.registerGeneric later ["T"]).declarations) := by
  obtain ⟨r, hr⟩ : ∃ r, r = Registry.builtins.insertAll before := ⟨_, rfl⟩
  have hcheck : r.checkArguments earlier.id [bool] = .ok (earlier.generic ["T"]) := by
    have hmem : earlier.generic ["T"] ∈ before := by simp [before, Registration.declarations]
    have hfind : r.find? earlier.id = some (earlier.generic ["T"]) :=
      hr ▸ find?_insertAll_of_mem (by decide +kernel) hmem
    refine checkArguments_generic hfind rfl ?_
    rw [List.forall_mem_singleton, hr, contains_builtins_insertAll]
    decide +kernel
  have hfree : r.contains (.ofInstance earlier.id [bool]) = false := by
    rw [hr]
    exact not_contains_builtins_insertAll (by decide +kernel)
  obtain ⟨t, ht⟩ : ∃ t, t = r.newInstance (earlier.generic ["T"]) earlier.id [bool] := ⟨_, rfl⟩
  have hinstance : (Registration.instantiate earlier.id [bool]).instances r = .ok [t] :=
    ht ▸ missing_of_last hcheck hfree (by rintro _ _ ⟨⟩)
  have hfirst : Registry.builtins.resolve? family.name = none := resolve?_builtins (by decide)
  have hsecond : (Registry.builtins.insertAll
      (Registration.registerGeneric family ["T"]).declarations).resolve? earlier.name = none :=
    resolve?_builtins_insertAll (by decide)
  -- The name of the instance has no path, unlike that of the later definition.
  have hlast : (r.insert t).resolve? later.name = none := by
    rw [resolve?_insert, if_neg, hr, resolve?_builtins_insertAll (by decide)]
    rintro ⟨-, hname⟩
    have hpath : t.name.path = ["A"] := congrArg TypeName.path hname
    rw [ht] at hpath
    cases hpath
  have hbefore : Action.after (Action.after .builtins
      (.registration (.registerGeneric family ["T"])))
      (.registration (.registerGeneric earlier ["T"])) = r := by
    rw [Action.after_registerGeneric hfirst, Action.after_registerGeneric hsecond, hr, before,
      insertAll_append]
  have hclosed : Action.after r (.registration (.instantiate earlier.id [bool])) = r.insert t := by
    rw [Action.after_of_instances hinstance]
    rfl
  refine ⟨t, by rw [ht]; rfl, by rw [ht]; rfl, by rw [ht]; rfl, by rw [ht]; rfl, ?_⟩
  rw [replacing, Action.runAll_cons, Action.runAll_cons, hbefore, Action.runAll_cons, hclosed,
    Action.runAll_cons, Action.after_registerGeneric hlast, Action.runAll_nil, insertAll_append,
    insertAll_cons, hr]

lemma find?_replacing {r : Registry} (hr : r = Action.runAll .builtins replacing) :
    r.find? family.id = some (family.generic ["T"]) ∧
      r.find? later.id = some (later.generic ["T"]) ∧ r.contains bool = true ∧
      r.contains (.ofInstance family.id [bool]) = false ∧
      ∃ t, r.find? (.ofInstance later.id [bool]) = some t ∧ t.definition = some later.id ∧
        t.args = [bool] ∧ t.baseType = some (.ofInstance family.id [bool]) := by
  obtain ⟨t, hid, hdef, hargs, hbase, hrun⟩ := runAll_replacing
  have hsame : earlier.id = later.id := by decide +kernel
  rw [hsame] at hid hdef
  rw [hrun] at hr
  have hids : (before ++ t :: (Registration.registerGeneric later ["T"]).declarations).map (·.id) =
      before.map (·.id) ++ Ident.ofInstance later.id [bool] ::
        (Registration.registerGeneric later ["T"]).declarations.map (·.id) := by
    rw [List.map_append, List.map_cons, hid]
  refine ⟨?_, ?_, ?_, ?_, t, ?_, hdef, hargs, hbase⟩
  · have hmem :
        family.generic ["T"] ∈ (Registration.registerGeneric family ["T"]).declarations := by
      simp [Registration.declarations]
    have hother : ∀ u ∈ (Registration.registerGeneric earlier ["T"]).declarations ++
        t :: (Registration.registerGeneric later ["T"]).declarations, u.id ≠ family.id := by
      simp only [List.forall_mem_append, List.forall_mem_cons, hid]
      decide +kernel
    rw [hr, before, List.append_assoc, insertAll_append, find?_insertAll_of_forall_ne hother]
    exact find?_insertAll_of_mem (by decide +kernel) hmem
  · have hmem : later.generic ["T"] ∈ (Registration.registerGeneric later ["T"]).declarations := by
      simp [Registration.declarations]
    rw [hr, insertAll_append, insertAll_cons]
    exact find?_insertAll_of_mem (by decide +kernel) hmem
  · rw [hr, contains_builtins_insertAll, List.map_append, hids]
    decide +kernel
  · rw [hr]
    refine not_contains_builtins_insertAll ?_
    rw [List.map_append, hids]
    decide +kernel
  · rw [hr, insertAll_append, insertAll_cons, find?_insertAll_of_forall_ne (by decide +kernel),
      find?_insert, if_pos hid]

/-- Not every instance that is held leads to the family of its definition: one that derives from
what its definition will derive from is returned as it is, and what it derives from is not made. -/
theorem missing_base_kept :
    ¬ ∀ (actions : List Action) (r : Registry), r = Action.runAll .builtins actions →
      ∀ (first : Application) (links : List Link) (type : Ident) (s : Registry),
        r.Chain first.definition links → links.length < Catalog.maxDepth →
        (∀ b ∈ (first.along links).dropLast, b.definition ≠ (first.last links).definition) →
        (∀ d b as, r.find? (first.last links).definition = some d → d.base ≠ some (.generic b as)) →
        ((first.along links).map Application.id).Nodup →
        Consecutive (fun a next => r.contains a.id = false ∨ r.Holds a next) (first.along links) →
        outcome (instantiate first.definition first.args) r = (.ok type, s) →
        ∃ value rest, (first.last links).args = value :: rest ∧
          s.catalog.valueType type (first.last links).definition "XProperty" .unknown =
            .ok value := by
  intro hclaim
  obtain ⟨r, hr⟩ : ∃ r, r = Action.runAll .builtins replacing := ⟨_, rfl⟩
  obtain ⟨hfamily, hlater, hbool, hfree, t, ht, hdef, hargs, hbase⟩ := find?_replacing hr
  let first : Application := ⟨later.id, [bool]⟩
  have hchain : r.Chain first.definition [⟨[.param 0], family.id⟩] :=
    .link (isGeneric_generic hlater (by simp) (by simp [TypeDecl.generic])) rfl (by simp)
      (by simp [BaseArg.Fits, TypeDecl.generic])
      (.last (isGeneric_generic hfamily (by simp) (by simp [TypeDecl.generic])))
  have hroot (d : TypeDecl) (b : Ident) (as : List Ident) (hd : r.find? family.id = some d) :
      d.base ≠ some (.generic b as) := by
    obtain rfl := Option.some.inj (hfamily.symm.trans hd)
    rintro ⟨⟩
  have hready : Consecutive (fun a next => r.contains a.id = false ∨ r.Holds a next)
      (first.along [⟨[.param 0], family.id⟩]) :=
    ⟨.inr ⟨t, ht, hdef, hargs, fun b hb => Option.some.inj hb ▸ hbase⟩, .inl hfree, trivial⟩
  have hout : outcome (instantiate later.id [bool]) r = (.ok (.ofInstance later.id [bool]), r) := by
    have hcheck : r.checkArguments later.id [bool] = .ok (later.generic ["T"]) :=
      checkArguments_generic hlater rfl (by simpa using hbool)
    rw [outcome_instantiate, missing_of_held hcheck (contains_of_find? ht)]
    rfl
  obtain ⟨value, rest, -, hvalue⟩ := hclaim replacing r hr first _ _ _ hchain (by decide)
    (by decide +kernel) hroot (by decide +kernel) hready hout
  have hwalk : r.catalog.ancestry (.ofInstance later.id [bool]) =
      [.ofInstance later.id [bool], .ofInstance family.id [bool]] := by
    have hend : r.catalog.baseOf? (.ofInstance family.id [bool]) = none := by
      rw [Catalog.baseOf?, catalog_find?, find?_eq_none_of_not_contains hfree, Option.bind_none]
    have hstep : r.catalog.baseOf? (.ofInstance later.id [bool]) =
        some (.ofInstance family.id [bool]) := by
      rw [Catalog.baseOf?, catalog_find?, ht, Option.bind_some, hbase]
    rw [Catalog.ancestry, Catalog.maxDepth, Catalog.ancestryWithin, hstep]
    dsimp only
    rw [Catalog.ancestryWithin, hend]
  have hother : r.catalog.definitionOf? (.ofInstance later.id [bool]) ≠ some family.id := by
    rw [Catalog.definitionOf?, catalog_find?, ht, Option.bind_some, hdef]
    decide +kernel
  have hnone : r.catalog.definitionOf? (.ofInstance family.id [bool]) = none := by
    rw [Catalog.definitionOf?, catalog_find?, find?_eq_none_of_not_contains hfree, Option.bind_none]
  change r.catalog.valueType (.ofInstance later.id [bool]) family.id "XProperty" .unknown = _
    at hvalue
  rw [Catalog.valueType, hwalk] at hvalue
  simp [hother, hnone] at hvalue

end Registry.Chain

end PropertyLowering
