import EndpointDiscovery.Proofs.Text.Cut
import EndpointDiscovery.Proofs.Url.HostName
import EndpointDiscovery.Url.Parser
import Mathlib.Data.List.TakeWhile

/-!
# URLs of a host

A URL that is made of a host alone is read as that host, if nothing in the
host cuts the URL.
-/

namespace EndpointDiscovery.Url

variable {mark : Char} {text name rest : List Char}

/-! ## Cutting -/

theorem cutMark_eq_self (h : mark ∉ text) : cutMark mark text = (text, none) := by
  have hrest : text.dropWhile (· ≠ mark) = [] := by
    rw [List.dropWhile_eq_nil_iff]
    intro character hmem
    exact decide_eq_true fun heq => h (heq ▸ hmem)
  rw [cutMark, hrest]

theorem cutPort_eq_self (hcolon : ':' ∉ text) (hbracket : '[' ∉ text) :
    cutPort false text = (text, none) := by
  induction text with
  | nil => rfl
  | cons character text ih =>
      rw [List.mem_cons, not_or] at hcolon hbracket
      have hinside :
          (if character = '[' then true else if character = ']' then false
            else false) =
          false := by
        rw [if_neg (Ne.symm hbracket.1), ite_self]
      unfold cutPort
      split
      · rename_i heq
        cases heq
      · rename_i heq
        cases heq
        exact absurd rfl hcolon.1
      · rename_i heq
        cases heq
        rw [hinside]
        dsimp only
        rw [ih hcolon.2 hbracket.2]

theorem cutLast_eq_none (h : mark ∉ text) : Text.cutLast [mark] text = none := by
  have hnot : Text.occurs [mark] text.reverse = false := by
    refine Bool.eq_false_iff.mpr fun hoccurs => h ?_
    have hinside := Text.occurs_iff_infix.mp hoccurs
    exact List.mem_reverse.mp (hinside.subset List.mem_cons_self)
  rw [Text.occurs, Option.isSome_eq_false_iff, Option.isNone_iff_eq_none] at hnot
  rw [Text.cutLast, List.reverse_singleton, hnot, Option.map_none]

/-! ## The beginning of a URL -/

theorem isSpecialScheme_http : isSpecialScheme "http" = true := by decide

def httpMark : List Char := ['h', 't', 't', 'p', ':', '/', '/']

def isKept (character : Char) : Bool :=
  character ≠ '\t' && character ≠ '\n' && character ≠ '\r'

theorem clean_http (name : List Char) :
    clean (httpMark ++ (name ++ ['/'])) =
      httpMark ++ (name.filter isKept ++ ['/']) := by
  have hkept : isKept = fun c => c ≠ '\t' && c ≠ '\n' && c ≠ '\r' := rfl
  simp [clean, httpMark, hkept]

theorem scheme?_http (rest : List Char) :
    scheme? (httpMark ++ rest) = some ("http", '/' :: '/' :: rest) := by
  have hscheme : (httpMark ++ rest).takeWhile isSchemeChar = ['h', 't', 't', 'p'] :=
    rfl
  have hrest : (httpMark ++ rest).dropWhile isSchemeChar =
      ':' :: '/' :: '/' :: rest := rfl
  have hlower : Text.lower (String.ofList ['h', 't', 't', 'p']) =
      "http" := by decide
  rw [scheme?, hrest, hscheme, hlower]
  rfl

theorem parse?_of_scheme? {written : String}
    (h : scheme? (clean written.toList) = some ("http", rest)) :
    parse? written =
      (hierarchical? "http" (((cutMark '?' (cutMark '#' rest).1).1.map
        fun c => if c = '\\' then '/' else c).dropWhile isSlash)).map fun url =>
          { url with
            query :=
              (cutMark '?' (cutMark '#' rest).1).2.map (escape specialQuerySet),
            fragment := (cutMark '#' rest).2.map (escape fragmentSet) } := by
  have hfile : "http" ≠ "file" := by decide
  unfold parse?
  rw [h]
  simp only [Option.bind_eq_bind, Option.bind_some, isSpecialScheme_http, hfile,
    if_true, if_false]
  exact Option.map_eq_bind.symm

/-! ## Hosts of URLs -/

theorem host_of_authority? {url : Url} {after : List Char}
    (h : authority? "http" text = some (url, after)) :
    ∃ hostText, url.host = Host.ofSpecial? hostText := by
  simp only [authority?, isSpecialScheme_http, if_true, Option.bind_eq_bind,
    Option.bind_eq_some_iff] at h
  obtain ⟨host, hhost, h⟩ := h
  refine ⟨_, Eq.trans ?_ hhost.symm⟩
  -- Credentials and a port make no difference to the host.
  split at h
  all_goals
    split at h
    · cases h
    · split at h
      all_goals
        obtain ⟨found, -, hurl⟩ := Option.bind_eq_some_iff.mp h
        cases hurl
        rfl

theorem host_of_hierarchical? {url : Url}
    (h : hierarchical? "http" text = some url) :
    ∃ hostText, url.host = Host.ofSpecial? hostText := by
  simp only [hierarchical?, isSpecialScheme_http, Bool.not_true, Bool.and_false,
    Bool.false_eq_true, if_false, Option.bind_eq_bind, Option.bind_eq_some_iff] at h
  obtain ⟨⟨found, after⟩, hauthority, h⟩ := h
  obtain ⟨hostText, hhost⟩ := host_of_authority? hauthority
  cases h
  exact ⟨hostText, hhost⟩

theorem scheme?_clean_http (name : List Char) :
    scheme? (clean (String.ofList (httpMark ++ (name ++ ['/']))).toList) =
      some ("http", '/' :: '/' :: (name.filter isKept ++ ['/'])) := by
  rw [String.toList_ofList, clean_http, scheme?_http]

theorem host_of_parse?_http {url : Url}
    (h : parse? (String.ofList (httpMark ++ (name ++ ['/']))) = some url) :
    ∃ hostText, url.host = Host.ofSpecial? hostText := by
  rw [parse?_of_scheme? (scheme?_clean_http name)] at h
  obtain ⟨found, hfound, rfl⟩ := Option.map_eq_some_iff.mp h
  obtain ⟨hostText, hhost⟩ := host_of_hierarchical? hfound
  exact ⟨hostText, hhost⟩

/-! ## URLs with nothing but a host -/

def ofDomain (domain : String) : Url :=
  { scheme := "http", host := some (.domain domain), path := .segments [""] }

def isMark (character : Char) : Bool :=
  "\t\n\r#/:?@[\\".toList.contains character

theorem not_mem_of_isMark (h : ∀ character ∈ text, isMark character = false)
    (hmark : isMark mark = true) : mark ∉ text := by
  intro hmem
  rw [h mark hmem] at hmark
  cases hmark

theorem authority?_eq_map (h : ∀ character ∈ text, isMark character = false)
    (hne : text ≠ []) :
    authority? "http" text =
      (Host.ofSpecial? text).map fun host =>
        ({ scheme := "http", host := some host }, []) := by
  have hat : '@' ∉ text := not_mem_of_isMark h (by decide)
  have hcolon : ':' ∉ text := not_mem_of_isMark h (by decide)
  have hbracket : '[' ∉ text := not_mem_of_isMark h (by decide)
  have hcredentials : userinfo [] = ("", none) := by decide
  have hempty : text.isEmpty = false := by simpa using hne
  simp only [authority?, isSpecialScheme_http, cutLast_eq_none hat,
    cutPort_eq_self hcolon hbracket, hcredentials, hempty, if_true, Bool.false_and,
    Bool.false_eq_true, if_false, Option.getD_none]
  cases Host.ofSpecial? text <;> rfl

theorem isSlash_eq_false (h : ∀ character ∈ text, isMark character = false) :
    ∀ character ∈ text, isSlash character = false := by
  intro character hmem
  have hslash : '/' ∉ text := not_mem_of_isMark h (by decide)
  have hne : character ≠ '/' := fun heq => hslash (heq ▸ hmem)
  simpa [isSlash] using hne

theorem hierarchical?_eq_map (h : ∀ character ∈ text, isMark character = false)
    (hne : text ≠ []) :
    hierarchical? "http" (text ++ ['/']) =
      (Host.ofSpecial? text).map fun host =>
        { scheme := "http", host := some host, path := .segments [""] } := by
  have hkeep : ∀ character ∈ text, (!isSlash character) = true := by
    intro character hmem
    rw [isSlash_eq_false h character hmem]
    rfl
  have htake : (text ++ ['/']).takeWhile (!isSlash ·) = text := by
    rw [List.takeWhile_append_of_pos hkeep]
    exact List.append_nil text
  have hdrop : (text ++ ['/']).dropWhile (!isSlash ·) = ['/'] := by
    rw [List.dropWhile_append_of_pos hkeep]
    rfl
  have hpath : segments false (afterSlash ['/']) = [""] := by decide
  simp only [hierarchical?, htake, hdrop, authority?_eq_map h hne,
    isSpecialScheme_http, Bool.not_true, Bool.and_false, Bool.false_eq_true,
    if_false]
  cases Host.ofSpecial? text with
  | none => rfl
  | some host =>
      simp only [Option.map_some, Option.bind_eq_bind, Option.bind_some,
        List.nil_append, hpath]

theorem filter_isKept (h : ∀ character ∈ text, isMark character = false) :
    text.filter isKept = text := by
  rw [List.filter_eq_self]
  intro character hmem
  have hoff : ∀ mark, isMark mark = true → character ≠ mark := by
    rintro mark hmark rfl
    exact not_mem_of_isMark h hmark hmem
  simp [isKept, hoff '\t' (by decide), hoff '\n' (by decide), hoff '\r' (by decide)]

theorem map_slash_eq_self (h : '\\' ∉ text) :
    text.map (fun c => if c = '\\' then '/' else c) = text := by
  rw [List.map_congr_left (g := id), List.map_id]
  intro character hmem
  have hne : character ≠ '\\' := fun heq => h (heq ▸ hmem)
  exact if_neg hne

theorem dropWhile_slashes (h : ∀ character ∈ text, isMark character = false)
    (hne : text ≠ []) :
    ('/' :: '/' :: (text ++ ['/'])).dropWhile isSlash = text ++ ['/'] := by
  obtain ⟨first, rest, rfl⟩ := List.exists_cons_of_ne_nil hne
  have hfirst : ¬isSlash first = true :=
    Bool.eq_false_iff.mp (isSlash_eq_false h first List.mem_cons_self)
  rw [List.cons_append, List.dropWhile_cons_of_pos rfl,
    List.dropWhile_cons_of_pos rfl, List.dropWhile_cons_of_neg hfirst]

/-- A text that is put in the place of a host and cuts nothing is read
as that host. -/
theorem parse?_http_eq_map (h : ∀ character ∈ name, isMark character = false)
    (hne : name ≠ []) :
    parse? (String.ofList (httpMark ++ (name ++ ['/']))) =
      (Host.ofSpecial? name).map fun host =>
        { scheme := "http", host := some host, path := .segments [""] } := by
  have hscheme := scheme?_clean_http name
  rw [filter_isKept h] at hscheme
  have hoff : ∀ mark, isMark mark = true → mark ≠ '/' →
      mark ∉ '/' :: '/' :: (name ++ ['/']) := by
    intro mark hmark hslash
    simp [hslash, not_mem_of_isMark h hmark]
  rw [parse?_of_scheme? hscheme, cutMark_eq_self (hoff '#' (by decide) (by decide)),
    cutMark_eq_self (hoff '?' (by decide) (by decide)),
    map_slash_eq_self (hoff '\\' (by decide) (by decide)), dropWhile_slashes h hne,
    hierarchical?_eq_map h hne]
  cases Host.ofSpecial? name <;> rfl

theorem eq_ofDomain_of_parse? {first lowered : Char} {url : Url}
    (hmarks : ∀ character ∈ first :: rest, isMark character = false)
    (hpercent : '%' ∉ first :: rest) (hlowered : Text.lowerChar first = [lowered])
    (hdot : lowered ≠ '.') (hdigit : Host.digitOf? 10 lowered = none)
    (h : parse? (String.ofList (httpMark ++ ((first :: rest) ++ ['/']))) =
      some url) :
    url = ofDomain (String.ofList ((first :: rest).flatMap Text.lowerChar)) := by
  rw [parse?_http_eq_map hmarks (List.cons_ne_nil first rest)] at h
  obtain ⟨host, hhost, rfl⟩ := Option.map_eq_some_iff.mp h
  have hbracket : first ≠ '[' := by
    rintro rfl
    exact absurd (hmarks '[' List.mem_cons_self) (by decide)
  rw [Host.eq_domain_of_ofSpecial? hbracket hpercent hlowered hdot hdigit hhost]
  rfl

end EndpointDiscovery.Url
