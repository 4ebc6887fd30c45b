import Mathlib.Algebra.BigOperators.Group.List.Basic
import Mathlib.Algebra.GroupWithZero.Nat
import Mathlib.Data.List.TakeWhile
import TaskConsole.Net.Url
import TaskConsole.Proofs.NumericHosts

/-! # Addresses of the web — host, port and path, where all characters are plain

    An address is read in stages, each of which looks for characters of its own: controls
    to drop, a colon after the scheme, slashes, an `@` after credentials, a colon before the
    port, a question mark after the path.  Where a path holds none of the characters that
    are encoded in it (`Path.isPlain`), the first single slash after the scheme is where it
    begins (`Url.read?_http`), and normalizing it makes it no longer (`Path.read_plain`).

    What stands before it is taken apart at the first colon:

    * after an address of version 4 that is the colon before the port (`read?_v4`);
    * in an address of version 6 it is one of its own, so that what follows is no port, and
      the whole is no address (`read?_v6`). -/

namespace TaskConsole

open Text

/-! ## Plain characters -/

/-- A character that a path holds as it is. -/
def Path.isPlain (c : Char) : Bool :=
  0x20 < c.toNat && c.toNat < 0x7F && !Percent.pathSet.contains c

theorem Path.isPlain_iff {c : Char} :
    isPlain c = true ↔ (0x20 < c.toNat ∧ c.toNat < 0x7F) ∧ c ∉ Percent.pathSet := by
  rw [isPlain, Bool.and_eq_true, Bool.and_eq_true, decide_eq_true_iff, decide_eq_true_iff,
    Bool.not_eq_true', ← Bool.not_eq_true, List.contains_iff_mem]

theorem Percent.encode_plain {cs : List Char} (h : ∀ c ∈ cs, Path.isPlain c = true) :
    encode pathSet cs = cs := by
  induction cs with
  | nil => rfl
  | cons c cs ih =>
      obtain ⟨⟨hlow, hhigh⟩, hset⟩ := Path.isPlain_iff.mp (h c List.mem_cons_self)
      have hplain : ¬ (decide (c.toNat < 0x20) || decide (0x7F ≤ c.toNat)
          || pathSet.contains c) = true := by
        rw [Bool.or_eq_true, Bool.or_eq_true, decide_eq_true_iff, decide_eq_true_iff,
          List.contains_iff_mem]
        rintro ((hlt | hle) | hmem)
        · omega
        · omega
        · exact hset hmem
      have hrest : encode pathSet cs = cs := ih fun d hd => h d (List.mem_cons_of_mem c hd)
      rw [encode] at hrest ⊢
      rw [List.flatMap_cons, if_neg hplain, hrest]
      rfl

/-! ## Paths -/

namespace PathSoFar

theorem text_push (p : PathSoFar) {segment : List Char}
    (h : ∀ c ∈ segment, Path.isPlain c = true) :
    (p.push segment).text = p.text ++ '/' :: segment := by
  rw [text, push, List.reverse_cons, List.flatMap_append, Percent.encode_plain h,
    List.flatMap_singleton]
  rfl

theorem length_text_back (p : PathSoFar) : p.back.text.length ≤ p.text.length := by
  rw [back]
  split
  · exact Nat.le_refl _
  · rw [text, text]
    cases hp : p.segments with
    | nil => exact Nat.le_refl _
    | cons segment rest =>
        rw [List.tail_cons, List.reverse_cons, List.flatMap_append, List.length_append]
        exact Nat.le_add_right _ _

theorem namesDrive_back (p : PathSoFar) : p.back.namesDrive = p.namesDrive := by
  rw [back]
  split <;> rfl

/-- **ONE MORE SEGMENT** makes a path longer by no more than its slash and itself, and no
    segment of a path of the web names a drive. -/
theorem add_plain {s : Scheme} (hs : s ≠ .file) (p : PathSoFar) {segment : List Char}
    (h : ∀ c ∈ segment, Path.isPlain c = true) (isLast : Bool) :
    (p.add s segment isLast).text.length ≤ p.text.length + (segment.length + 1)
      ∧ (p.add s segment isLast).namesDrive = p.namesDrive := by
  have hback := p.length_text_back
  have hempty : ∀ c ∈ ([] : List Char), Path.isPlain c = true :=
    fun c hc => absurd hc List.not_mem_nil
  have hfile : ¬ (s = .file ∧ p.segments = []) := fun hfile => hs hfile.1
  simp only [add, if_neg hfile]
  split
  · split
    · rw [text_push _ hempty, List.length_append, List.length_singleton]
      exact ⟨by omega, p.namesDrive_back⟩
    · exact ⟨by omega, p.namesDrive_back⟩
  · split
    · split
      · rw [text_push _ hempty, List.length_append, List.length_singleton]
        exact ⟨by omega, rfl⟩
      · exact ⟨by omega, rfl⟩
    · rw [text_push _ h, List.length_append, List.length_cons]
      exact ⟨by omega, rfl⟩

/-- **ALL SEGMENTS.** -/
theorem addAll_plain {s : Scheme} (hs : s ≠ .file) (p : PathSoFar)
    {segments : List (List Char)}
    (h : ∀ segment ∈ segments, ∀ c ∈ segment, Path.isPlain c = true) :
    (addAll s p segments).text.length
        ≤ p.text.length + (segments.map fun segment => segment.length + 1).sum
      ∧ (addAll s p segments).namesDrive = p.namesDrive := by
  induction segments generalizing p with
  | nil => exact ⟨Nat.le_refl _, rfl⟩
  | cons segment rest ih =>
      have hsegment := h segment List.mem_cons_self
      cases rest with
      | nil => exact p.add_plain hs hsegment true
      | cons next rest =>
          obtain ⟨hlength, hdrive⟩ := p.add_plain hs hsegment false
          obtain ⟨hall, hdrives⟩ := ih (p.add s segment false)
            fun other hother => h other (List.mem_cons_of_mem segment hother)
          rw [addAll, List.map_cons, List.sum_cons]
          · exact ⟨by omega, hdrives.trans hdrive⟩
          · exact List.cons_ne_nil next rest

end PathSoFar

/-- The parts of a text and the separators after them are as long as the text and one more
    separator. -/
theorem Text.sum_length_splitOn (sep : Char) (cs : List Char) :
    ((splitOn sep cs).map fun part => part.length + 1).sum = cs.length + 1 := by
  induction cs with
  | nil => rfl
  | cons c cs ih =>
      rw [splitOn]
      cases hparts : splitOn sep cs with
      | nil => exact absurd hparts (splitOn_ne_nil sep cs)
      | cons part parts =>
          rw [hparts, List.map_cons, List.sum_cons] at ih
          simp only
          split
          · simp only [List.map_cons, List.sum_cons, List.length_nil, List.length_cons]
            omega
          · simp only [List.map_cons, List.sum_cons, List.length_cons]
            omega

theorem Text.mem_of_mem_splitOn {sep : Char} {cs : List Char} :
    ∀ part ∈ splitOn sep cs, ∀ c ∈ part, c ∈ cs := by
  induction cs with
  | nil =>
      intro part hpart c hc
      rw [List.mem_singleton.mp hpart] at hc
      exact hc
  | cons d cs ih =>
      intro part hpart c hc
      rw [splitOn] at hpart
      cases hparts : splitOn sep cs with
      | nil => exact absurd hparts (splitOn_ne_nil sep cs)
      | cons first parts =>
          rw [hparts] at hpart ih
          simp only at hpart
          split at hpart
          · rcases List.mem_cons.mp hpart with rfl | hpart
            · exact absurd hc List.not_mem_nil
            · exact List.mem_cons_of_mem d (ih part hpart c hc)
          · rcases List.mem_cons.mp hpart with rfl | hpart
            · rcases List.mem_cons.mp hc with rfl | hc
              · exact List.mem_cons_self
              · exact List.mem_cons_of_mem d (ih first List.mem_cons_self c hc)
            · exact List.mem_cons_of_mem d
                (ih part (List.mem_cons_of_mem first hpart) c hc)

/-- **A PLAIN PATH** in normal form is no longer than it was written, with its slash. -/
theorem Path.read_plain {s : Scheme} (hs : s ≠ .file) {cs : List Char}
    (h : ∀ c ∈ cs, isPlain c = true) :
    (Path.read s cs).1.length ≤ cs.length + 1 ∧ (Path.read s cs).2 = false := by
  have hsegments : ∀ segment ∈ segments s cs, ∀ c ∈ segment, isPlain c = true := by
    intro segment hsegment c hc
    obtain ⟨d, hd, rfl⟩ := List.mem_map.mp (mem_of_mem_splitOn segment hsegment c hc)
    split
    · decide
    · exact h d hd
  obtain ⟨hlength, hdrive⟩ := PathSoFar.addAll_plain hs ⟨[], false⟩ hsegments
  have hsum : ((segments s cs).map fun segment => segment.length + 1).sum = cs.length + 1 := by
    rw [segments, sum_length_splitOn, List.length_map]
  rw [hsum] at hlength
  rw [Path.read, if_neg hs]
  exact ⟨Nat.le_trans hlength (Nat.le_of_eq (Nat.zero_add _)), hdrive⟩

/-! ## Where a path begins -/

theorem Text.dropWhile_eq_self {p : Char → Bool} {cs : List Char}
    (h : ∀ c ∈ cs, p c = false) : cs.dropWhile p = cs := by
  cases cs with
  | nil => rfl
  | cons c cs =>
      have hc := h c List.mem_cons_self
      exact List.dropWhile_cons_of_neg (by rw [hc]; exact Bool.false_ne_true)

/-- A plain character that is no slash belongs to what stands before the path. -/
def Url.isFront (c : Char) : Bool := Path.isPlain c && !isSlash c

theorem Url.isFront_iff {c : Char} :
    isFront c = true ↔ Path.isPlain c = true ∧ isSlash c = false := by
  rw [isFront, Bool.and_eq_true, Bool.not_eq_true']

/-- A plain character is neither dropped nor ignored, and ends no path. -/
theorem Path.stays_of_isPlain {c : Char} (h : isPlain c = true) :
    Url.isControlOrSpace c = false ∧ Url.isIgnored c = false ∧ Url.endsPath c = false := by
  obtain ⟨⟨hlow, -⟩, hset⟩ := isPlain_iff.mp h
  refine ⟨decide_eq_false (by omega), ?_, ?_⟩
  · rw [Url.isIgnored, Bool.or_eq_false_iff, Bool.or_eq_false_iff, beq_eq_false_iff_ne,
      beq_eq_false_iff_ne, beq_eq_false_iff_ne]
    refine ⟨⟨?_, ?_⟩, ?_⟩
    · rintro rfl
      exact absurd hlow (by decide)
    · rintro rfl
      exact absurd hlow (by decide)
    · rintro rfl
      exact absurd hlow (by decide)
  · rw [Url.endsPath, Bool.or_eq_false_iff, beq_eq_false_iff_ne, beq_eq_false_iff_ne]
    refine ⟨?_, ?_⟩
    · rintro rfl
      exact hset (List.elem_iff.mp rfl)
    · rintro rfl
      exact hset (List.elem_iff.mp rfl)

namespace Url

/-- With a plain path, an address of the web has no query and no fragment. -/
theorem withPath_plain {u : Url} (hs : u.scheme = .http) {path : List Char}
    (h : ∀ c ∈ path, Path.isPlain c = true) : ∃ text : List Char,
    text.length ≤ path.length + 1 ∧ u.withPath ('/' :: path)
      = { u with path := String.ofList text, query := none, fragment := none } := by
  have hends : ∀ c ∈ '/' :: path, (!endsPath c) = true := by
    intro c hc
    rcases List.mem_cons.mp hc with rfl | hc
    · rfl
    · rw [(Path.stays_of_isPlain (h c hc)).2.2]
      rfl
  have htake : ('/' :: path).takeWhile (fun c => !endsPath c) = '/' :: path :=
    List.takeWhile_eq_self_iff.mpr hends
  have hdrop : ('/' :: path).dropWhile (fun c => !endsPath c) = [] :=
    List.dropWhile_eq_nil_iff.mpr hends
  obtain ⟨hlength, hdrive⟩ := Path.read_plain (s := .http) (by decide) h
  refine ⟨(Path.read .http path).1, hlength, ?_⟩
  have hinner : Scheme.isSlashIn .http '/' = true := rfl
  have hfull : ¬ ('/' :: path = [] ∧ Scheme.isSpecial .http = false) :=
    fun hnone => List.cons_ne_nil _ _ hnone.1
  simp only [withPath, htake, hdrop, hs, hinner, if_true, if_neg hfull, hdrive,
    Bool.false_eq_true, if_false]
  rfl

/-- **WHERE A PATH BEGINS**: at the first slash after those behind the scheme. -/
theorem read?_http {front path : List Char} (hne : front ≠ [])
    (hfront : ∀ c ∈ front, isFront c = true) (hpath : ∀ c ∈ path, Path.isPlain c = true) :
    read? (String.ofList ("http://".toList ++ (front ++ '/' :: path)))
      = (readAuthority? .http front ('/' :: path)).map
        fun read => read.1.withPath (read.2 ++ '/' :: path) := by
  have hplain : ∀ c ∈ "http://".toList ++ (front ++ '/' :: path), Path.isPlain c = true := by
    have hscheme : "http://".toList.all Path.isPlain = true := rfl
    intro c hc
    rw [List.mem_append, List.mem_append, List.mem_cons] at hc
    rcases hc with hc | hc | rfl | hc
    · exact List.all_eq_true.mp hscheme c hc
    · exact (isFront_iff.mp (hfront c hc)).1
    · rfl
    · exact hpath c hc
  have hcontrol : ∀ c ∈ "http://".toList ++ (front ++ '/' :: path), isControlOrSpace c = false :=
    fun c hc => (Path.stays_of_isPlain (hplain c hc)).1
  have htrimmed : (("http://".toList ++ (front ++ '/' :: path)).dropWhile
      isControlOrSpace).reverse.dropWhile isControlOrSpace
      = ("http://".toList ++ (front ++ '/' :: path)).reverse := by
    rw [dropWhile_eq_self hcontrol]
    exact dropWhile_eq_self fun c hc => hcontrol c (List.mem_reverse.mp hc)
  have hfiltered : ("http://".toList ++ (front ++ '/' :: path)).filter (fun c => !isIgnored c)
      = "http://".toList ++ (front ++ '/' :: path) := by
    refine List.filter_eq_self.mpr fun c hc => ?_
    rw [(Path.stays_of_isPlain (hplain c hc)).2.1]
    rfl
  have hscheme : Scheme.split? ("http://".toList ++ (front ++ '/' :: path))
      = some (.http, '/' :: '/' :: (front ++ '/' :: path)) := rfl
  have hslashes : ('/' :: '/' :: (front ++ '/' :: path)).dropWhile isSlash
      = front ++ '/' :: path := by
    obtain ⟨c, rest, rfl⟩ := List.exists_cons_of_ne_nil hne
    have hc := (isFront_iff.mp (hfront c List.mem_cons_self)).2
    show (c :: (rest ++ '/' :: path)).dropWhile isSlash = _
    rw [List.dropWhile_cons_of_neg (by rw [hc]; exact Bool.false_ne_true)]
    rfl
  have hbefore : ∀ c ∈ front, (!endsAuthority .http c) = true := by
    intro c hc
    obtain ⟨hc, hslash⟩ := isFront_iff.mp (hfront c hc)
    rw [endsAuthority, (Path.stays_of_isPlain hc).2.2, Bool.or_false]
    show (!isSlash c) = true
    rw [hslash]
    rfl
  have hafter : ∀ c ∈ ('/' :: path).head?, (!endsAuthority .http c) = false := by
    intro c hc
    cases hc
    rfl
  rw [read?, String.toList_ofList, htrimmed, List.reverse_reverse, hfiltered, hscheme]
  show readHosted? .http (('/' :: '/' :: (front ++ '/' :: path)).dropWhile isSlash) = _
  rw [hslashes, readHosted?, takeWhile_run hbefore hafter, dropWhile_run hbefore hafter]
  cases readAuthority? .http front ('/' :: path) <;> rfl

/-! ## Ports -/

/-- Without brackets, the first colon is before the port. -/
theorem splitPort_plain {cs : List Char} (h : '[' ∉ cs) :
    splitPort false cs = (cs.takeWhile (· != ':'), cs.dropWhile (· != ':')) := by
  induction cs with
  | nil => rfl
  | cons c cs ih =>
      have hbracket : c ≠ '[' := fun hc => h (hc ▸ List.mem_cons_self)
      rw [splitPort]
      by_cases hc : c = ':'
      · subst hc
        rfl
      · have hopen : (decide (c = '[') || (false && c != ']')) = false := by
          rw [decide_eq_false hbracket]
          rfl
        have hne : (c != ':') = true := bne_iff_ne.mpr hc
        rw [if_neg fun hcolon => hc hcolon.1, hopen, ih fun hcs => h (List.mem_cons_of_mem c hcs),
          List.takeWhile_cons_of_pos (p := (· != ':')) hne,
          List.dropWhile_cons_of_pos (p := (· != ':')) hne]

theorem readPort?_decimal {n : Nat} (h : n < 65536) :
    readPort? (decimal n) = some (some (UInt16.ofNat n)) := by
  rw [readPort?, if_neg (decimal_ne_nil n), digits?_decimal, Option.filter_some,
    if_pos (decide_eq_true h)]
  rfl

/-- What is not made of digits is no port. -/
theorem readPort?_eq_none {cs : List Char} {c : Char} (hc : c ∈ cs) (h : isDigit c = false) :
    readPort? cs = none := by
  have hdigits : digits? cs = none := by
    refine if_neg fun hall => ?_
    have hdigit := List.all_eq_true.mp hall.2 c hc
    rw [h] at hdigit
    exact Bool.false_ne_true hdigit
  rw [readPort?, if_neg (List.ne_nil_of_mem hc), hdigits]
  rfl

/-! ## Credentials -/

theorem afterCredentials_plain {cs : List Char} (h : '@' ∉ cs) : afterCredentials cs = cs := by
  have hall : ∀ c ∈ cs.reverse, (c != '@') = true := by
    intro c hc
    rw [bne_iff_ne]
    rintro rfl
    exact h (List.mem_reverse.mp hc)
  rw [afterCredentials, List.takeWhile_eq_self_iff.mpr hall, List.reverse_reverse]

theorem readCredentials_plain {cs : List Char} (h : '@' ∉ cs) : readCredentials cs = none := by
  rw [readCredentials, afterCredentials_plain h, Nat.sub_self, Nat.zero_sub, List.take_zero]
  rfl

/-! ## Hosts -/

/-- No character of an address and a port ends what stands before the path. -/
theorem isFront_of_isTextChar {c : Char} (h : Address.isTextChar c = true) :
    isFront c = true := by
  obtain ⟨hlow, hhigh⟩ := Address.range_of_isTextChar h
  have hother {x : Char} (hx : Address.isTextChar x = false) : c ≠ x := by
    rintro rfl
    exact Bool.false_ne_true (hx.symm.trans h)
  have hset : c ∉ Percent.pathSet := by
    have hall : Percent.pathSet.all (fun x => !Address.isTextChar x) = true := rfl
    intro hmem
    have hc := List.all_eq_true.mp hall c hmem
    rw [h] at hc
    exact Bool.false_ne_true hc
  have hslash : isSlash c = false := by
    rw [isSlash, Bool.or_eq_false_iff, beq_eq_false_iff_ne, beq_eq_false_iff_ne]
    exact ⟨hother rfl, hother rfl⟩
  exact isFront_iff.mpr ⟨Path.isPlain_iff.mpr ⟨⟨by omega, by omega⟩, hset⟩, hslash⟩

/-- The text of a host and a port. -/
def hostText (host : Address) (port : UInt16) : List Char :=
  host.text.toList ++ ':' :: decimal port.toNat

theorem mem_hostText {host : Address} {port : UInt16} :
    ∀ c ∈ hostText host port, Address.isTextChar c = true := by
  intro c hc
  rw [hostText, List.mem_append, List.mem_cons] at hc
  rcases hc with hc | rfl | hc
  · exact Address.mem_text c hc
  · rfl
  · exact Address.isTextChar_of_isDigit (isDigit_of_mem_decimal c hc)

theorem not_mem_hostText {host : Address} {port : UInt16} {c : Char}
    (h : Address.isTextChar c = false) : c ∉ hostText host port := by
  intro hmem
  exact Bool.false_ne_true (h.symm.trans (mem_hostText c hmem))

section Cut

variable {host : Address} {port : UInt16} {before after : List Char}
  (htext : hostText host port = before ++ ':' :: after)

include htext

/-- A host and a port are cut at the first colon. -/
theorem splitPort_hostText (hbefore : ':' ∉ before) :
    splitPort false (afterCredentials (hostText host port)) = (before, ':' :: after) := by
  have hplain : ∀ x ∈ before, (x != ':') = true := by
    intro x hx
    rw [bne_iff_ne]
    rintro rfl
    exact hbefore hx
  have hcolon : ∀ x ∈ (':' :: after).head?, (x != ':') = false := by
    intro x hx
    cases hx
    rfl
  rw [afterCredentials_plain (not_mem_hostText rfl), splitPort_plain (not_mem_hostText rfl),
    htext, takeWhile_run hplain hcolon, dropWhile_run hplain hcolon]

/-- There is no back slash behind the colon, so that the port goes on to the end. -/
theorem takeWhile_afterColon : after.takeWhile (· != '\\') = after
    ∧ after.dropWhile (· != '\\') = [] := by
  have hslash : ∀ x ∈ after, (x != '\\') = true := by
    intro x hx
    rw [bne_iff_ne]
    rintro rfl
    refine absurd ?_ (not_mem_hostText rfl : '\\' ∉ hostText host port)
    rw [htext]
    exact List.mem_append_right _ (List.mem_cons_of_mem _ hx)
  exact ⟨List.takeWhile_eq_self_iff.mpr hslash, List.dropWhile_eq_nil_iff.mpr hslash⟩

end Cut

/-- An address of the web that consists of a host and a port; the default port is left out. -/
def ofHost (host : Address) (port : UInt16) : Url where
  scheme := .http
  credentials := none
  host := some (.address host)
  port := (some port).filter fun p => some p != Scheme.defaultPort? .http
  path := ""
  query := none
  fragment := none

/-- **AN ADDRESS OF VERSION 4** ends at the first colon. -/
theorem readAuthority?_v4 (a b c d : UInt8) (port : UInt16) (rest : List Char) :
    readAuthority? .http (hostText (.v4 a b c d) port) rest
      = some (ofHost (.v4 a b c d) port, []) := by
  have htext : hostText (.v4 a b c d) port
      = Address.quadText a b c d ++ ':' :: decimal port.toNat := by
    rw [hostText, Address.text, String.toList_ofList]
  have hquad : ':' ∉ Address.quadText a b c d := by
    intro hcolon
    exact absurd (Host.mem_quadText a b c d ':' hcolon) (by decide)
  have hsplit := splitPort_hostText htext hquad
  obtain ⟨hport, hleft⟩ := takeWhile_afterColon htext
  have hcredentials : readCredentials (hostText (.v4 a b c d) port) = none :=
    readCredentials_plain (not_mem_hostText rfl)
  have hne : Address.quadText a b c d ≠ [] :=
    List.append_ne_nil_of_right_ne_nil _ (List.cons_ne_nil _ _)
  have hguard : guard (Address.quadText a b c d ≠ [] ∨ ':' :: decimal port.toNat = []
      ∧ mayLackHost .http (hostText (.v4 a b c d) port) rest = true) = some () :=
    if_pos (Or.inl hne)
  have hspecial : Scheme.isSpecial .http = true := rfl
  simp only [readAuthority?, hsplit, hcredentials, List.tail_cons, hport, hleft,
    Host.read?_quadText, readPort?_decimal port.toNat_lt, bind, Option.bind_some,
    if_pos hspecial, hguard, UInt16.ofNat_toNat]
  rfl

/-- **AN ADDRESS OF VERSION 6** without brackets ends nowhere: behind its first colon there
    is another one, and so no port. -/
theorem readAuthority?_v6 (groups : Vector UInt16 8) (port : UInt16) (rest : List Char) :
    readAuthority? .http (hostText (.v6 groups) port) rest = none := by
  have hlength : 2 ≤ groups.toList.length := by
    rw [Vector.length_toList]
    decide
  obtain ⟨before, after, hgroups, hbefore⟩ :=
    List.eq_append_cons_of_mem (Address.colon_mem_v6Text hlength)
  have htext : hostText (.v6 groups) port
      = before ++ ':' :: (after ++ ':' :: decimal port.toNat) := by
    rw [hostText, Address.text, String.toList_ofList, hgroups, List.append_assoc, List.cons_append]
  have hsplit := splitPort_hostText htext hbefore
  obtain ⟨hafter, -⟩ := takeWhile_afterColon htext
  have hport : readPort? (after ++ ':' :: decimal port.toNat) = none :=
    readPort?_eq_none (List.mem_append_right _ List.mem_cons_self) rfl
  have hspecial : Scheme.isSpecial .http = true := rfl
  simp only [readAuthority?, hsplit, List.tail_cons, hafter, hport, bind, Option.bind_none,
    Option.bind_fun_none, if_pos hspecial]

/-! ## Whole addresses -/

/-- The text of an address up to its path. -/
def webFront (host : Address) (port : UInt16) : List Char :=
  "http://".toList ++ hostText host port

/-- The text of an address with a host, a port and a path. -/
def webText (host : Address) (port : UInt16) (path : List Char) : List Char :=
  webFront host port ++ '/' :: path

section Whole

variable {path : List Char} (h : ∀ c ∈ path, Path.isPlain c = true)

include h

theorem read?_webText (host : Address) (port : UInt16) :
    read? (String.ofList (webText host port path))
      = (readAuthority? .http (hostText host port) ('/' :: path)).map
        fun read => read.1.withPath (read.2 ++ '/' :: path) := by
  show read? (String.ofList (("http://".toList ++ hostText host port) ++ '/' :: path)) = _
  rw [List.append_assoc]
  exact read?_http (List.append_ne_nil_of_right_ne_nil _ (List.cons_ne_nil _ _))
    (fun c hc => isFront_of_isTextChar (mem_hostText c hc)) h

/-- A text with an address of version 4 names that host and port, -/
theorem read?_v4 (a b c d : UInt8) (port : UInt16) : ∃ text : List Char,
    text.length ≤ path.length + 1 ∧ read? (String.ofList (webText (.v4 a b c d) port path))
      = some { ofHost (.v4 a b c d) port with path := String.ofList text } := by
  obtain ⟨text, hlength, hpath⟩ := withPath_plain (u := ofHost (.v4 a b c d) port) rfl h
  refine ⟨text, hlength, ?_⟩
  rw [read?_webText h, readAuthority?_v4, Option.map_some, List.nil_append, hpath]
  rfl

/-- and with one of version 6 it names nothing. -/
theorem read?_v6 (groups : Vector UInt16 8) (port : UInt16) :
    read? (String.ofList (webText (.v6 groups) port path)) = none := by
  rw [read?_webText h, readAuthority?_v6]
  rfl

end Whole

/-! ## Lengths -/

/-- The greatest length of what stands before the path. -/
def maxFrontLength : Nat := 28

theorem length_quadText (a b c d : UInt8) : (Address.quadText a b c d).length ≤ 15 := by
  have hbyte (x : UInt8) : (decimal x.toNat).length ≤ 3 :=
    length_decimal_le (k := 2) (Nat.lt_of_lt_of_le x.toNat_lt (by decide))
  have ha := hbyte a
  have hb := hbyte b
  have hc := hbyte c
  have hd := hbyte d
  simp only [Address.quadText, List.length_append, List.length_cons]
  omega

theorem length_authorityText_ofHost (a b c d : UInt8) (port : UInt16) :
    (ofHost (.v4 a b c d) port).authorityText.length ≤ 21 := by
  have hhost : (Host.address (.v4 a b c d)).text.length ≤ 15 := by
    rw [Host.text, Address.text, String.length_ofList]
    exact length_quadText a b c d
  have hport (n : UInt16) : (Text.showNat n.toNat).length ≤ 5 := by
    rw [showNat, String.length_ofList]
    exact length_decimal_le (k := 4) (Nat.lt_of_lt_of_le n.toNat_lt (by decide))
  rw [authorityText, String.length_append]
  show (Host.address (.v4 a b c d)).text.length + _ ≤ 21
  cases hasked : (ofHost (.v4 a b c d) port).port with
  | none =>
      show _ + 0 ≤ 21
      omega
  | some n =>
      have hcolon : ":".length = 1 := rfl
      have hlength := hport n
      simp only [String.length_append]
      omega

/-- **A SHORT ADDRESS CAN BE SENT TO.** -/
theorem isSendable_v4 (a b c d : UInt8) (port : UInt16) {path : List Char}
    (h : path.length + maxFrontLength ≤ maxLength) :
    { ofHost (.v4 a b c d) port with path := String.ofList path }.isSendable = true := by
  have hauthority := length_authorityText_ofHost a b c d port
  have htext : { ofHost (.v4 a b c d) port with path := String.ofList path }.text
      = "http" ++ ":" ++ ("//" ++ "" ++ (ofHost (.v4 a b c d) port).authorityText)
        ++ (String.ofList path ++ "") ++ "" := rfl
  have hlength : { ofHost (.v4 a b c d) port with path := String.ofList path }.text.length
      ≤ maxLength := by
    have hscheme : "http".length + ":".length + "//".length = 7 := rfl
    have hempty : "".length = 0 := rfl
    have hpath : (String.ofList path).length = path.length := String.length_ofList
    simp only [htext, String.length_append]
    rw [maxFrontLength] at h
    omega
  rw [isSendable, decide_eq_true hlength]
  rfl

end Url

end TaskConsole
