import LinkStubs.Proofs.Variadic

/-!
Arguments by name. The name of a parameter is what follows the last character that ends its type,
and one empty pair of brackets is dropped from its end. So parameters with no more brackets than
that are passed on by name, all of them and in order, but of an array with a size or with brackets
more than once an element is passed on.
-/

namespace LinkStubs

open LinkStubs.Identifier LinkStubs.Text

/-- A declaration of a parameter: a type, a character that ends it, a name, and pairs of brackets
around the sizes of an array. -/
structure Declarator where
  type : String
  mark : Char
  name : String
  sizes : List String
  marked : endsType mark = true
  named : IsIdentifier name
  sized : ∀ size ∈ sizes, IdentText size

namespace Declarator

def brackets (sizes : List String) : String :=
  String.join (sizes.map (fun size => "[" ++ size ++ "]"))

def text (d : Declarator) : String :=
  d.type ++ String.singleton d.mark ++ d.name ++ brackets d.sizes

/-- The sizes without the last, if that is empty. -/
def kept (sizes : List String) : List String :=
  if sizes.getLast? = some "" then sizes.dropLast else sizes

end Declarator

namespace StubBody

def passed : StubBody → String
  | .plain _ args => args
  | .variadicReturn fixed _ | .variadicVoid fixed _ => fixed

def arguments (b : StubBody) : List String :=
  (pieces (· == ',') b.passed.toList).map (fun p => String.ofList (trim p))

/-- Names without commas are the arguments that they are joined to. -/
theorem pieces_joined {names : List String} (hne : names ≠ [])
    (hcomma : ∀ name ∈ names, ',' ∉ name.toList) :
    (pieces (· == ',') (joined names).toList).map (fun p => String.ofList (trim p)) =
      names.map (fun name => String.ofList (trim name.toList)) := by
  have huncut : ∀ p ∈ names.map String.toList, ∀ c ∈ p, (c == ',') = false := by
    intro p hp c hc
    obtain ⟨name, hname, rfl⟩ := List.mem_map.mp hp
    exact uncut_of_not_mem (hcomma name hname) c hc
  have hpieces := trim_pieces_intercalate (· == ',') ',' ' ' (by decide) (by decide) (by decide)
    (by simpa using hne) huncut
  have hchars : (joined names).toList = [',', ' '].intercalate (names.map String.toList) := by
    simp [joined]
  calc (pieces (· == ',') (joined names).toList).map (fun p => String.ofList (trim p))
      = ((pieces (· == ',') (joined names).toList).map trim).map String.ofList := by
        rw [List.map_map]
        rfl
    _ = ((names.map String.toList).map trim).map String.ofList := by rw [hchars, hpieces]
    _ = names.map (fun name => String.ofList (trim name.toList)) := by
        rw [List.map_map, List.map_map]
        rfl

theorem joined_eq_void {names : List String} : joined names = "void" ↔ names = ["void"] := by
  constructor
  · intro h
    match names with
    | [] => exact absurd h (by decide)
    | [name] =>
      rw [joined, String.intercalate_singleton] at h
      rw [h]
    | name :: next :: rest =>
      have hcomma : ',' ∈ (joined (name :: next :: rest)).toList := by
        simp [joined]
      rw [h] at hcomma
      exact absurd hcomma (by decide)
  · rintro rfl
    decide

end StubBody

namespace Signature

theorem endsType_of_identChar {c : Char} (h : isIdentChar c = true) : endsType c = false := by
  cases he : endsType c with
  | false => rfl
  | true =>
    simp only [endsType, Bool.or_eq_true, beq_iff_eq] at he
    rcases he with (rfl | rfl) | rfl
    all_goals
      revert h
      decide

/-- What follows the last character that ends a type. -/
def behindType (param : List Char) : List Char :=
  (param.reverse.takeWhile (fun c => !endsType c)).reverse

theorem argumentChars_eq (param : List Char) :
    argumentChars param = dropBrackets (trim (behindType param)) :=
  rfl

theorem behindType_append {name : List Char} (h : ∀ c ∈ name, endsType c = false)
    (front : List Char) : behindType (front ++ name) = behindType front ++ name := by
  have hname : ∀ c ∈ name.reverse, (!endsType c) = true := by
    intro c hc
    rw [h c (List.mem_reverse.mp hc)]
    rfl
  rw [behindType, List.reverse_append, List.takeWhile_append_of_pos hname, List.reverse_append,
    List.reverse_reverse, behindType]

theorem behindType_concat {c : Char} (hc : endsType c = true) (front : List Char) :
    behindType (front ++ [c]) = [] := by
  rw [behindType, List.reverse_concat, List.takeWhile_cons_of_neg (by simp [hc]), List.reverse_nil]

/-- Whatever is in front of a character that ends a type is no part of the name. -/
theorem behindType_cons {c : Char} (hc : endsType c = true) {name : List Char}
    (h : ∀ d ∈ name, endsType d = false) (front : List Char) :
    behindType (front ++ c :: name) = name := by
  rw [← List.singleton_append, ← List.append_assoc, behindType_append h, behindType_concat hc,
    List.nil_append]

theorem behindType_decomposition (param : List Char) :
    ∃ type, param = type ++ behindType param ∧ (∀ c ∈ type.getLast?, endsType c = true) ∧
      ∀ c ∈ behindType param, endsType c = false := by
  refine ⟨(param.reverse.dropWhile (fun c => !endsType c)).reverse, ?_, ?_, ?_⟩
  · rw [behindType, ← List.reverse_append, List.takeWhile_append_dropWhile, List.reverse_reverse]
  · intro c hc
    rw [List.getLast?_reverse] at hc
    have hn := List.head?_dropWhile_not (fun c => !endsType c) param.reverse
    rw [Option.mem_def.mp hc] at hn
    simpa using hn
  · intro c hc
    simpa using List.mem_takeWhile_imp (List.mem_reverse.mp hc)

theorem dropBrackets_pair (cs : List Char) : dropBrackets (cs ++ ['[', ']']) = cs := by
  simp [dropBrackets]

theorem dropBrackets_of_end {cs : List Char} (h : ¬ ['[', ']'] <:+ cs) : dropBrackets cs = cs := by
  unfold dropBrackets
  split
  · rename_i rest he
    have hcs : cs = rest.reverse ++ ['[', ']'] := by
      rw [← List.reverse_reverse cs, he]
      simp
    exact absurd ⟨rest.reverse, hcs.symm⟩ h
  · rfl

end Signature

namespace Declarator

open LinkStubs.Signature

theorem brackets_concat (sizes : List String) (size : String) :
    brackets (sizes ++ [size]) = brackets sizes ++ "[" ++ size ++ "]" := by
  rw [← String.toList_inj]
  simp [brackets, String.toList_join]

theorem brackets_eq_empty {sizes : List String} : brackets sizes = "" ↔ sizes = [] := by
  rw [← String.toList_inj]
  cases sizes <;> simp [brackets, String.toList_join]

theorem kept_subset (sizes : List String) : kept sizes ⊆ sizes := by
  unfold kept
  split
  · exact List.dropLast_subset sizes
  · exact List.Subset.refl sizes

theorem kept_eq_nil {sizes : List String} (hne : sizes ≠ []) :
    kept sizes = [] ↔ sizes = [""] := by
  match sizes with
  | [] => exact absurd rfl hne
  | [size] => by_cases he : size = "" <;> simp [kept, he]
  | size :: next :: rest =>
    unfold kept
    split <;> simp

/-- Behind the type there are no characters but those of identifiers and brackets. -/
theorem mem_named (d : Declarator) {sizes : List String} (hs : sizes ⊆ d.sizes) {c : Char}
    (h : c ∈ (d.name ++ brackets sizes).toList) : isIdentChar c = true ∨ c = '[' ∨ c = ']' := by
  rw [String.toList_append, List.mem_append] at h
  rcases h with h | h
  · exact Or.inl (d.named.identText c h)
  · simp only [brackets, String.toList_join, List.flatMap_map, List.mem_flatMap,
      String.toList_append, List.mem_append, toList_literal, List.mem_singleton] at h
    obtain ⟨size, hsize, (rfl | h) | rfl⟩ := h
    · exact Or.inr (Or.inl rfl)
    · exact Or.inl (d.sized size (hs hsize) c h)
    · exact Or.inr (Or.inr rfl)

theorem unmarked (d : Declarator) :
    ∀ c ∈ (d.name ++ brackets d.sizes).toList, endsType c = false := by
  intro c hc
  rcases d.mem_named (List.Subset.refl _) hc with h | rfl | rfl
  · exact endsType_of_identChar h
  · decide
  · decide

theorem trimmed_named (d : Declarator) {sizes : List String} (hs : sizes ⊆ d.sizes) :
    Trimmed (d.name ++ brackets sizes).toList := by
  have hunblank : ∀ c ∈ (d.name ++ brackets sizes).toList, isBlank c = false := by
    intro c hc
    rcases d.mem_named hs hc with h | rfl | rfl
    · exact not_blank_of_identChar h
    · decide
    · decide
  exact ⟨fun c hc => hunblank c (List.mem_of_mem_head? hc),
    fun c hc => hunblank c (List.mem_of_getLast? hc)⟩

/-- Of the brackets behind a name, the last pair is dropped if it is empty. -/
theorem dropBrackets_named (d : Declarator) :
    dropBrackets (d.name ++ brackets d.sizes).toList =
      (d.name ++ brackets (kept d.sizes)).toList := by
  rcases List.eq_nil_or_concat d.sizes with hnone | ⟨front, size, hsizes⟩
  · have hend : ¬ ['[', ']'] <:+ (d.name ++ brackets []).toList := by
      intro hs
      have hm : ']' ∈ d.name.toList := by simpa [brackets] using hs.mem (by simp : ']' ∈ ['[', ']'])
      exact d.named.identText.not_mem (by decide) hm
    rw [hnone, dropBrackets_of_end hend]
    rfl
  · rw [hsizes, List.concat_eq_append, brackets_concat]
    by_cases he : size = ""
    · subst he
      have hkept : kept (front ++ [""]) = front := by simp [kept]
      rw [hkept]
      simpa using dropBrackets_pair (d.name ++ brackets front).toList
    · have hkept : kept (front ++ [size]) = front ++ [size] := by simp [kept, he]
      rw [hkept, brackets_concat]
      -- An empty pair at the end would have its first bracket at the end of the size.
      apply dropBrackets_of_end
      rintro ⟨more, hmore⟩
      have hinner : more ++ ['['] = (d.name ++ brackets front ++ "[").toList ++ size.toList := by
        rw [← List.append_left_inj [']']]
        simpa using hmore
      have hlast : size.toList.getLast? = some '[' := by
        have hends := congrArg List.getLast? hinner
        rw [List.getLast?_concat, List.getLast?_append_of_ne_nil _ (by simpa using he)] at hends
        exact hends.symm
      have hsize : IdentText size := d.sized size (by simp [hsizes])
      exact hsize.not_mem (by decide) (List.mem_of_getLast? hlast)

theorem argumentName_text (d : Declarator) :
    argumentName d.text = d.name ++ brackets (kept d.sizes) := by
  have htext : d.text.toList = d.type.toList ++ d.mark :: (d.name ++ brackets d.sizes).toList := by
    simp [text]
  rw [argumentName, argumentChars_eq, htext, behindType_cons d.marked d.unmarked,
    (d.trimmed_named (List.Subset.refl _)).trim_eq, dropBrackets_named, String.ofList_toList]

theorem argumentName_plain {d : Declarator} (h : d.sizes = [] ∨ d.sizes = [""]) :
    argumentName d.text = d.name := by
  have hkept : brackets (kept d.sizes) = "" := by
    rcases h with h | h <;> rw [h] <;> rfl
  rw [argumentName_text, hkept, String.append_empty]

theorem argumentNames_plain {ds : List Declarator} (h : ∀ d ∈ ds, d.sizes = [] ∨ d.sizes = [""]) :
    (ds.map text).map argumentName = ds.map name := by
  rw [List.map_map]
  exact List.map_congr_left (fun d hd => argumentName_plain (h d hd))

theorem named_ne_ellipsis (d : Declarator) (rest : String) : d.name ++ rest ≠ ellipsis := by
  obtain ⟨c, cs, hname, hc, _⟩ := d.named
  intro he
  have hchars : c :: (cs ++ rest.toList) = ['.', '.', '.'] := by
    rw [← List.cons_append, ← hname, ← String.toList_append, he]
    decide
  obtain ⟨rfl, _⟩ := List.cons_eq_cons.mp hchars
  exact absurd hc (by decide)

theorem name_ne_empty (d : Declarator) : d.name ≠ "" := by
  obtain ⟨c, cs, hname, _⟩ := d.named
  intro he
  rw [he] at hname
  cases hname

end Declarator

namespace StubBody

theorem hasTail_names (ds : List Declarator) : hasTail (ds.map Declarator.name) = false := by
  rw [hasTail, Bool.and_eq_false_iff, beq_eq_false_iff_ne]
  right
  intro hlast
  obtain ⟨d, _, he⟩ := List.mem_map.mp (List.mem_of_getLast? hlast)
  exact d.named_ne_ellipsis "" (by rw [String.append_empty, he])

theorem hasTail_append_ellipsis {names : List String} (hne : names ≠ []) :
    hasTail (names ++ [ellipsis]) = true := by
  have hlength := List.length_pos_iff.mpr hne
  rw [hasTail, Bool.and_eq_true, decide_eq_true_eq, List.getLast?_concat, List.length_append]
  exact ⟨by rw [List.length_singleton]; omega, by decide⟩

/-- Parameters that have an empty pair of brackets at most are passed on by name, all of them and in
order, whatever their types are. -/
theorem ofSignature_declarators (returnType name : String) (mark : Option String)
    {ds : List Declarator} (hne : ds ≠ []) (hsizes : ∀ d ∈ ds, d.sizes = [] ∨ d.sizes = [""])
    (hvoid : ∀ d ∈ ds, d.name ≠ "void") :
    ofSignature ⟨returnType, name, ds.map Declarator.text, mark⟩ =
        .plain (!(returnType == "void")) (joined (ds.map Declarator.name)) ∧
      ofSignature ⟨returnType, name, ds.map Declarator.text ++ [ellipsis], mark⟩ =
        if returnType = "void" then
          .variadicVoid (joined (ds.map Declarator.name)) (ds.getLast hne).name
        else .variadicReturn (joined (ds.map Declarator.name)) (ds.getLast hne).name := by
  have hnames := Declarator.argumentNames_plain hsizes
  constructor
  · have hjoined : joined (ds.map Declarator.name) ≠ "void" := by
      rw [ne_eq, joined_eq_void, List.map_eq_singleton_iff]
      rintro ⟨d, rfl, hd⟩
      exact hvoid d List.mem_cons_self hd
    simp only [ofSignature, Signature.argumentNames, Signature.returnsVoid, hnames, hasTail_names,
      Bool.false_eq_true, if_false, if_neg hjoined]
  · have htail : hasTail (ds.map Declarator.name ++ [ellipsis]) = true :=
      hasTail_append_ellipsis (by simpa using hne)
    have hlast : ((ds.map Declarator.name).getLast?).getD "" = (ds.getLast hne).name := by
      rw [List.getLast?_map, List.getLast?_eq_some_getLast hne]
      rfl
    have hellipsis : [ellipsis].map argumentName = [ellipsis] := by decide
    simp only [ofSignature, Signature.argumentNames, Signature.returnsVoid, List.map_append, hnames,
      hellipsis, htail, if_true, List.dropLast_concat, hlast, beq_iff_eq]

theorem ofSignature_of_planes :
    ∃ ds : List Declarator, ds.map Declarator.text = ["unsigned char** planes[]", "int& n"] ∧
      ds ≠ [] ∧ (∀ d ∈ ds, d.sizes = [] ∨ d.sizes = [""]) ∧ (∀ d ∈ ds, d.name ≠ "void") ∧
      ofSignature ⟨"int", "f2", ["unsigned char** planes[]", "int& n"], none⟩ =
        .plain true "planes, n" ∧
      ofSignature ⟨"int", "f2", ["unsigned char** planes[]", "int& n", "..."], none⟩ =
        .variadicReturn "planes, n" "n" := by
  let ds : List Declarator :=
    [⟨"unsigned char**", ' ', "planes", [""], by decide, by decide, by decide⟩,
      ⟨"int&", ' ', "n", [], by decide, by decide, by decide⟩]
  have hne : ds ≠ [] := by decide
  have hsizes : ∀ d ∈ ds, d.sizes = [] ∨ d.sizes = [""] := by decide
  have hvoid : ∀ d ∈ ds, d.name ≠ "void" := by decide
  obtain ⟨hplain, hvariadic⟩ := ofSignature_declarators "int" "f2" none hne hsizes hvoid
  exact ⟨ds, by decide, hne, hsizes, hvoid, hplain, hvariadic⟩

end StubBody

namespace Signature

open Declarator

/-- An argument name other than `...` is passed on at its own place, without blanks around it, if it
is not a lone `void`. -/
theorem arguments_of_argumentName {line : String} {position : Position} {s : Signature}
    (h : readLine line position = .ok (some s)) {name : String} {i : Nat}
    (hi : s.argumentNames[i]? = some name) (hne : name ≠ ellipsis) :
    (StubBody.ofSignature s).arguments[i]? =
      some (if s.argumentNames = ["void"] then "" else String.ofList (trim name.toList)) := by
  have hf := forwardable_of_readLine h
  have hcomma := comma_not_mem_argumentName h
  have hnames : s.argumentNames.length = s.params.length := List.length_map _
  by_cases hm : ellipsis ∈ s.argumentNames
  · obtain ⟨hlength, hplace⟩ := hf.ellipsis_place hm
    obtain ⟨last, _, he⟩ := ofSignature_of_tail hf hm
    have hpassed : (StubBody.ofSignature s).passed =
        StubBody.joined (s.argumentNames.take (s.params.length - 1)) := by
      rw [he]
      split <;> rfl
    -- Only the last parameter is the tail, so another name stands before it and is passed on.
    have hinside : i < s.params.length - 1 := by
      obtain ⟨hbound, _⟩ := List.getElem?_eq_some_iff.mp hi
      have hearlier : ¬ i + 1 = s.params.length := by
        intro hend
        exact hne (Option.some.inj (hi.symm.trans ((hplace i).mpr hend)))
      omega
    have hvoid : s.argumentNames ≠ ["void"] := by
      intro hv
      rw [hv] at hm
      exact absurd hm (by decide)
    have htake : s.argumentNames.take (s.params.length - 1) ≠ [] := by
      rw [← List.length_pos_iff, List.length_take]
      omega
    rw [StubBody.arguments, hpassed, StubBody.pieces_joined htake
      (fun n hn => hcomma n (List.mem_of_mem_take hn)), if_neg hvoid, List.getElem?_map,
      List.getElem?_take, if_pos hinside, hi]
    rfl
  · have hsome : s.argumentNames ≠ [] := List.ne_nil_of_mem (List.mem_of_getElem? hi)
    rw [StubBody.arguments, ofSignature_of_no_tail hf hm, StubBody.passed]
    by_cases hv : s.argumentNames = ["void"]
    · have hfirst : i = 0 := by
        obtain ⟨hbound, _⟩ := List.getElem?_eq_some_iff.mp hi
        rw [hv, List.length_singleton] at hbound
        omega
      rw [if_pos hv, if_pos (StubBody.joined_eq_void.mpr hv), hfirst]
      decide
    · rw [if_neg hv, if_neg (fun hj => hv (StubBody.joined_eq_void.mp hj)),
        StubBody.pieces_joined hsome hcomma, List.getElem?_map, hi]
      rfl

/-- Of an array, the name is passed on together with all its brackets but an empty last pair, so the
array itself is passed on only if it has no other brackets. -/
theorem arguments_of_array {line : String} {position : Position} {s : Signature}
    (h : readLine line position = .ok (some s)) {d : Declarator} {i : Nat}
    (hd : s.params[i]? = some d.text) (hsizes : d.sizes ≠ []) :
    s.argumentNames[i]? = some (d.name ++ brackets (kept d.sizes)) ∧
      (StubBody.ofSignature s).arguments[i]? =
        some (if s.argumentNames = ["void"] then "" else d.name ++ brackets (kept d.sizes)) ∧
      ((StubBody.ofSignature s).arguments[i]? = some d.name ↔
        d.sizes = [""] ∧ s.argumentNames ≠ ["void"]) := by
  have hname : s.argumentNames[i]? = some (d.name ++ brackets (kept d.sizes)) := by
    rw [argumentNames, List.getElem?_map, hd, Option.map_some, argumentName_text]
  have hpassed := arguments_of_argumentName h hname (d.named_ne_ellipsis _)
  rw [(d.trimmed_named (kept_subset d.sizes)).trim_eq, String.ofList_toList] at hpassed
  refine ⟨hname, hpassed, ?_⟩
  rw [hpassed, Option.some_inj]
  by_cases hv : s.argumentNames = ["void"]
  · simp [hv, d.name_ne_empty.symm]
  · rw [if_neg hv, String.append_eq_left_iff, brackets_eq_empty, kept_eq_nil hsizes]
    simp [hv]

theorem arguments_of_argv :
    readLine "int f2(char *argv[], char m[][3], ...)" .start =
        .ok (some ⟨"int", "f2", ["char *argv[]", "char m[][3]", "..."], none⟩) ∧
      (StubBody.ofSignature
        ⟨"int", "f2", ["char *argv[]", "char m[][3]", "..."], none⟩).arguments[0]? = some "argv" ∧
      (StubBody.ofSignature
        ⟨"int", "f2", ["char *argv[]", "char m[][3]", "..."], none⟩).arguments[1]? =
          some "m[][3]" := by
  let argv : Declarator := ⟨"char ", '*', "argv", [""], by decide, by decide, by decide⟩
  let grid : Declarator := ⟨"char", ' ', "m", ["", "3"], by decide, by decide, by decide⟩
  have h : readLine "int f2(char *argv[], char m[][3], ...)" .start =
      .ok (some ⟨"int", "f2", ["char *argv[]", "char m[][3]", "..."], none⟩) := by rfl
  obtain ⟨_, _, hargv⟩ := arguments_of_array h (d := argv) (i := 0) (by decide) (by decide)
  obtain ⟨_, hgrid, _⟩ := arguments_of_array h (d := grid) (i := 1) (by decide) (by decide)
  exact ⟨h, hargv.mpr (by decide), hgrid⟩

/-- Of an array with a size, the stub passes on the element behind the last. -/
theorem arguments_of_sized_array :
    readLine "int f2(int a[3])" .start = .ok (some ⟨"int", "f2", ["int a[3]"], none⟩) ∧
      (∃ d : Declarator, d.text = "int a[3]" ∧ d.name = "a" ∧ d.sizes = ["3"]) ∧
      (StubBody.ofSignature ⟨"int", "f2", ["int a[3]"], none⟩).arguments = ["a[3]"] ∧
      (StubBody.ofSignature ⟨"int", "f2", ["int a[3]"], none⟩).arguments[0]? ≠ some "a" ∧
      "  return f2_ptr(a[3]);" ∈ Emit.stub ⟨"int", "f2", ["int a[3]"], none⟩ :=
  ⟨rfl, ⟨⟨"int", ' ', "a", ["3"], by decide, by decide, by decide⟩, by decide, rfl, rfl⟩,
    by decide, by decide, by decide⟩

end Signature

end LinkStubs
