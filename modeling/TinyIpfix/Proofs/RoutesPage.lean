import TinyIpfix.RoutesPage
import Mathlib.Data.List.TakeWhile

/-! The page of the border router is never cut short, and an address on it reads back. -/

namespace TinyIpfix
open CMem Printf

def IpAddr.words (addr : IpAddr) : List UInt16 := (List.finRange 8).map addr.word

def hexWord (word : UInt16) : List UInt8 := printed 16 word.toNat

/-- Words between colons. -/
def joined (words : List UInt16) : List UInt8 := (ascii ":").intercalate (words.map hexWord)

/-- Two colons stand for the first run of zeros. -/
def addressText (words : List UInt16) : List UInt8 :=
  if 0 ∈ words then
    joined (words.takeWhile (· ≠ 0)) ++ ascii "::" ++ joined ((words.dropWhile (· ≠ 0)).dropWhile (· = 0))
  else joined words

section Text

private theorem joined_cons (word : UInt16) (words : List UInt16) :
    joined (word :: words) = hexWord word ++ words.flatMap fun other => ascii ":" ++ hexWord other := by
  induction words generalizing word with
  | nil => simp [joined]
  | cons next words ih =>
    have rest := ih next
    rw [joined, List.map_cons] at rest ⊢
    rw [List.map_cons, List.intercalate_cons_cons, rest, List.flatMap_cons]
    simp only [List.append_assoc]

private theorem hexWord_length_le (word : UInt16) : (hexWord word).length ≤ 4 :=
  printed_length_le (by decide) (by decide) word.toNat_lt

private theorem joined_length_le (words : List UInt16) : (joined words).length ≤ 5 * words.length - 1 := by
  cases words with
  | nil => simp [joined]
  | cons word words =>
    have first := hexWord_length_le word
    have rest : (words.flatMap fun other => ascii ":" ++ hexWord other).length ≤ 5 * words.length := by
      induction words with
      | nil => simp
      | cons other words ih =>
        have next := hexWord_length_le other
        have colon : (ascii ":").length = 1 := by simp [ascii]
        rw [List.flatMap_cons, List.length_append, List.length_append, List.length_cons, colon]
        omega
    rw [joined_cons, List.length_append, List.length_cons]
    omega

private theorem words_split {words : List UInt16} (zero : 0 ∈ words) :
    ∃ front count back, words = front ++ List.replicate (count + 1) 0 ++ back ∧ (∀ word ∈ front, word ≠ 0) ∧
      (∀ word rest, back = word :: rest → word ≠ 0) ∧ addressText words = joined front ++ ascii "::" ++ joined back := by
  have parts := List.takeWhile_append_dropWhile (p := fun word : UInt16 => decide (word ≠ 0)) (l := words)
  have nonzero : ∀ word ∈ words.takeWhile (· ≠ 0), word ≠ 0 := by
    intro word member
    simpa using List.mem_takeWhile_imp member
  cases rest : words.dropWhile (· ≠ 0) with
  | nil =>
    rw [rest, List.append_nil] at parts
    rw [parts] at nonzero
    exact absurd rfl (nonzero 0 zero)
  | cons first others =>
    have head := List.head?_dropWhile_not (fun word : UInt16 => decide (word ≠ 0)) words
    rw [rest] at head parts
    obtain rfl : first = 0 := by simpa using head
    have zeros : others.takeWhile (· = 0) = List.replicate (others.takeWhile (· = 0)).length 0 := by
      apply List.eq_replicate_of_mem
      intro word member
      simpa using List.mem_takeWhile_imp member
    refine ⟨words.takeWhile (· ≠ 0), (others.takeWhile (· = 0)).length, others.dropWhile (· = 0), ?_, nonzero, ?_, ?_⟩
    · rw [List.replicate_succ, ← zeros, List.append_assoc, List.cons_append, List.takeWhile_append_dropWhile]
      exact parts.symm
    · intro word rest shape
      have last := List.head?_dropWhile_not (fun word : UInt16 => decide (word = 0)) others
      rw [shape] at last
      simpa using last
    · rw [addressText, if_pos zero, rest]
      simp

end Text

section Printing
variable {size : Nat}

/-- The loop over some of the words, from this index and with this flag. -/
def ipaddrLoop (words : List UInt16) (i : Nat) (f : Int) (buffer : TextBuffer) : Checked (Int × TextBuffer) :=
  (words.zipIdx i).foldlM (fun state entry => ipaddrStep entry.2 entry.1 state.1 state.2) (f, buffer)

/-- The loop prints this text and leaves this flag. -/
def Prints (size : Nat) (words : List UInt16) (i : Nat) (f : Int) (text : List UInt8) (flag : Int) : Prop :=
  ∀ buffer held, Written size buffer held → held.length + text.length < size →
    ∃ next, ipaddrLoop words i f buffer = .ok (flag, next) ∧ Written size next (held ++ text)

theorem Prints.nil (i : Nat) (f : Int) : Prints size [] i f [] f := by
  intro buffer held written fits
  exact ⟨buffer, rfl, by simpa using written⟩

theorem Prints.append {front back : List UInt16} {i : Nat} {f middle flag : Int} {first second : List UInt8}
    (head : Prints size front i f first middle) (tail : Prints size back (i + front.length) middle second flag) :
    Prints size (front ++ back) i f (first ++ second) flag := by
  intro buffer held written fits
  rw [List.length_append] at fits
  obtain ⟨between, early, reached⟩ := head buffer held written (by omega)
  obtain ⟨next, late, final⟩ := tail between _ reached (by rw [List.length_append]; omega)
  rw [List.append_assoc] at final
  refine ⟨next, ?_, final⟩
  rw [ipaddrLoop] at early late ⊢
  rw [List.zipIdx_append, List.foldlM_append, early]
  exact late

theorem Prints.single {word : UInt16} {i : Nat} {f flag : Int} {text : List UInt8}
    (step : ∀ buffer held, Written size buffer held → held.length + text.length < size →
      ∃ next, ipaddrStep i word f buffer = .ok (flag, next) ∧ Written size next (held ++ text)) :
    Prints size [word] i f text flag := by
  intro buffer held written fits
  obtain ⟨next, done, final⟩ := step buffer held written fits
  exact ⟨next, by simp [ipaddrLoop, done], final⟩

variable (small : size < 65536)
include small

private theorem prints_first {word : UInt16} (nonzero : word ≠ 0) : Prints size [word] 0 0 (hexWord word) 0 := by
  apply Prints.single
  intro buffer held written fits
  obtain ⟨next, added, final⟩ := Appends.add small (hexWord word) buffer held written fits
  rw [hexWord] at added
  exact ⟨next, by simp -implicitDefEqProofs [ipaddrStep, ipaddrSeparator, nonzero, added], final⟩

/-- Behind the first word, and behind the zeros, every word that is printed follows a colon. -/
theorem prints_next {word : UInt16} {i : Nat} {f : Int} (later : 0 < i) (kind : (f = 0 ∧ word ≠ 0) ∨ f = -1) :
    Prints size [word] i f (ascii ":" ++ hexWord word) f := by
  apply Prints.single
  intro buffer held written fits
  rw [List.length_append] at fits
  obtain ⟨middle, colon, reached⟩ := Appends.add small (ascii ":") buffer held written (by omega)
  obtain ⟨next, added, final⟩ := Appends.add small (hexWord word) middle _ reached (by rw [List.length_append]; omega)
  rw [List.append_assoc] at final
  rw [hexWord] at added
  have printed : ¬(word = 0 ∧ f ≥ 0) := by
    rintro ⟨zero, nonneg⟩
    rcases kind with ⟨-, other⟩ | negative
    · exact other zero
    · omega
  have separated : ¬ f > 0 := by
    rcases kind with ⟨same, -⟩ | negative <;> omega
  exact ⟨next, by simp -implicitDefEqProofs [ipaddrStep, ipaddrSeparator, printed, separated, later, colon, added], final⟩

private theorem prints_after_zeros {word : UInt16} (nonzero : word ≠ 0) (i : Nat) {f : Int} (positive : 0 < f) :
    Prints size [word] i f (hexWord word) (-1) := by
  apply Prints.single
  intro buffer held written fits
  obtain ⟨next, added, final⟩ := Appends.add small (hexWord word) buffer held written fits
  rw [hexWord] at added
  exact ⟨next, by simp -implicitDefEqProofs [ipaddrStep, ipaddrSeparator, nonzero, positive, added], final⟩

private theorem prints_rest {words : List UInt16} {i : Nat} {f : Int} (later : 0 < i)
    (kind : (f = 0 ∧ ∀ word ∈ words, word ≠ 0) ∨ f = -1) :
    Prints size words i f (words.flatMap fun word => ascii ":" ++ hexWord word) f := by
  induction words generalizing i with
  | nil => exact Prints.nil i f
  | cons word words ih =>
    have head : Prints size [word] i f (ascii ":" ++ hexWord word) f := by
      apply prints_next small later
      rcases kind with ⟨same, nonzero⟩ | negative
      · exact .inl ⟨same, nonzero word (by simp)⟩
      · exact .inr negative
    have tail := ih (show 0 < i + [word].length by omega) (by
      rcases kind with ⟨same, nonzero⟩ | negative
      · exact .inl ⟨same, fun other member => nonzero other (by simp [member])⟩
      · exact .inr negative)
    rw [List.flatMap_cons]
    exact head.append tail

private theorem prints_front {words : List UInt16} (nonzero : ∀ word ∈ words, word ≠ 0) :
    Prints size words 0 0 (joined words) 0 := by
  cases words with
  | nil => exact Prints.nil 0 0
  | cons word words =>
    rw [joined_cons]
    exact (prints_first small (nonzero word (by simp))).append (prints_rest small (by simp)
      (.inl ⟨rfl, fun other member => nonzero other (by simp [member])⟩))

private theorem prints_zeros (count i : Nat) :
    Prints size (List.replicate (count + 1) 0) i 0 (ascii "::") (count + 1) := by
  induction count with
  | zero =>
    apply Prints.single
    intro buffer held written fits
    obtain ⟨next, added, final⟩ := Appends.add small (ascii "::") buffer held written fits
    exact ⟨next, by simp -implicitDefEqProofs [ipaddrStep, added], final⟩
  | succ count ih =>
    rw [List.replicate_succ', ← List.append_nil (ascii "::")]
    refine ih.append (Prints.single ?_)
    intro buffer held written fits
    have positive : ¬((count : Int) + 1 = 0) := by omega
    have more : (count : Int) + 1 ≥ 0 := by omega
    exact ⟨buffer, by simp -implicitDefEqProofs [ipaddrStep, positive, more], by simpa using written⟩

private theorem prints_back {words : List UInt16} (nonzero : ∀ word rest, words = word :: rest → word ≠ 0) (i : Nat) {f : Int}
    (positive : 0 < f) : ∃ flag, Prints size words i f (joined words) flag := by
  cases words with
  | nil => exact ⟨f, Prints.nil i f⟩
  | cons word words =>
    refine ⟨-1, ?_⟩
    rw [joined_cons]
    exact (prints_after_zeros small (nonzero word words rfl) i positive).append
      (prints_rest small (by simp) (.inr rfl))

private theorem prints_address (words : List UInt16) : ∃ flag, Prints size words 0 0 (addressText words) flag := by
  by_cases zero : 0 ∈ words
  · obtain ⟨front, count, back, shape, before, behind, text⟩ := words_split zero
    obtain ⟨flag, last⟩ := prints_back small behind (0 + (front ++ List.replicate (count + 1) 0).length)
      (show (0 : Int) < count + 1 by omega)
    refine ⟨flag, ?_⟩
    rw [text]
    rw [shape]
    exact ((prints_front small before).append (prints_zeros small count _)).append last
  · refine ⟨0, ?_⟩
    rw [addressText, if_neg zero]
    exact prints_front small fun word member same => zero (same ▸ member)

/-- The loop prints the address in its usual notation. -/
theorem ipaddrAdd_appends (addr : IpAddr) : Appends size (ipaddrAdd addr) (addressText addr.words) := by
  intro buffer held written fits
  obtain ⟨flag, prints⟩ := prints_address small addr.words
  obtain ⟨next, done, final⟩ := prints buffer held written fits
  have indexed : addr.words.zipIdx = (List.finRange 8).map fun i => (addr.word i, i.val) := rfl
  rw [ipaddrLoop, indexed, List.foldlM_map] at done
  exact ⟨next, by simp only [ipaddrAdd, done, ok_bind, pure_ok], final⟩

end Printing

private theorem addressText_length_le {words : List UInt16} (eight : words.length = 8) : (addressText words).length ≤ 39 := by
  by_cases zero : 0 ∈ words
  · obtain ⟨front, count, back, shape, -, -, text⟩ := words_split zero
    have before := joined_length_le front
    have behind := joined_length_le back
    have colons : (ascii "::").length = 2 := by simp [ascii]
    rw [shape, List.length_append, List.length_append, List.length_replicate] at eight
    rw [text, List.length_append, List.length_append, colons]
    omega
  · have all := joined_length_le words
    rw [addressText, if_neg zero]
    omega

section Characters

private theorem addressText_characters (words : List UInt16) :
    ∀ byte ∈ addressText words, byte = 58 ∨ ∃ digit < 16, byte = digitByte digit := by
  have colon : ascii ":" = [58] := by simp [ascii]
  have colons : ascii "::" = [58, 58] := by simp [ascii]
  have each : ∀ some : List UInt16, ∀ byte ∈ joined some, byte = 58 ∨ ∃ digit < 16, byte = digitByte digit := by
    intro some byte member
    cases some with
    | nil => simp [joined] at member
    | cons word rest =>
      rw [joined_cons, List.mem_append, List.mem_flatMap] at member
      rcases member with digits | ⟨other, -, later⟩
      · exact .inr (printed_digits (by decide) (by decide) _ byte digits)
      · rcases List.mem_append.mp later with separator | digits
        · rw [colon] at separator
          exact .inl (List.mem_singleton.mp separator)
        · exact .inr (printed_digits (by decide) (by decide) _ byte digits)
  intro byte member
  rw [addressText] at member
  split at member
  next =>
    rcases List.mem_append.mp member with front | behind
    · rcases List.mem_append.mp front with before | between
      · exact each _ byte before
      · rw [colons] at between
        exact .inl (by simpa using between)
    · exact each _ byte behind
  next => exact each _ byte member

theorem notMem_addressText {byte : UInt8} (words : List UInt16) (other : byte ≠ 58) (plain : digitValue byte = none) :
    byte ∉ addressText words := by
  intro member
  rcases addressText_characters words byte member with colon | ⟨digit, small, shape⟩
  · exact other colon
  · rw [shape, digitValue_digitByte small] at plain
    cases plain

private theorem notMem_printed {byte : UInt8} (base value : Nat) (two : 1 < base) (small : base ≤ 16)
    (plain : digitValue byte = none) : byte ∉ printed base value := by
  intro member
  obtain ⟨digit, inside, shape⟩ := printed_digits two small value byte member
  rw [shape, digitValue_digitByte (by omega)] at plain
  cases plain

private theorem notMem_number {byte : UInt8} {front back : List UInt8} (value : Nat) (plain : digitValue byte = none)
    (before : byte ∉ front) (behind : byte ∉ back) : byte ∉ front ++ printed 10 value ++ back := by
  have digits := notMem_printed 10 value (by decide) (by decide) plain
  simp only [List.mem_append, not_or]
  exact ⟨⟨before, digits⟩, behind⟩

end Characters

section Page

def neighborText (nbr : IpAddr) : List UInt8 := addressText nbr.words ++ ascii "\n"

def routeText (r : Route) (nexthop : IpAddr) : List UInt8 :=
  addressText r.ipaddr.words ++ (ascii "/" ++ printed 10 r.length.toNat ++ ascii " (via ") ++ addressText nexthop.words ++
    (ascii ") " ++ printed 10 r.lifetime.toNat ++ ascii "s\n")

/-- The page that is meant, with every route and the neighbor it goes through. -/
def pageText (neighbors : List IpAddr) (routes : List (Route × IpAddr)) : List UInt8 :=
  top ++ ascii "Neighbors<pre>" ++ neighbors.flatMap neighborText ++ ascii "</pre>Routes<pre>\n" ++
    routes.flatMap (fun entry => routeText entry.1 entry.2) ++ ascii "</pre>" ++ bottom

private theorem words_length (addr : IpAddr) : addr.words.length = 8 := by simp [IpAddr.words]

private theorem address_fits (addr : IpAddr) : (addressText addr.words).length ≤ 39 := addressText_length_le (words_length addr)

variable {output : Output} {all held : List UInt8}

private theorem printsAddress (carries : Carries pageSize output all held) (addr : IpAddr) (room : held.length + 39 < pageSize) :
    ∃ next, output.print (ipaddrAdd addr) = .ok next ∧
      Carries pageSize next (all ++ addressText addr.words) (held ++ addressText addr.words) := by
  have short := address_fits addr
  exact carries.print (ipaddrAdd_appends (by decide) addr) (notMem_addressText _ (by decide) (by decide)) (by omega)

private theorem printsText (carries : Carries pageSize output all held) {text : List UInt8} (plain : 0 ∉ text)
    (room : held.length + text.length < pageSize) :
    ∃ next, output.print (TextBuffer.add text) = .ok next ∧ Carries pageSize next (all ++ text) (held ++ text) :=
  carries.print (Appends.add (by decide) text) plain room

private theorem neighborAdd_carries (carries : Carries pageSize output all held) (room : held.length + 45 ≤ pageSize)
    (nbr : IpAddr) : ∃ next rest, neighborAdd output nbr = .ok next ∧ Carries pageSize next (all ++ neighborText nbr) rest ∧
      rest.length + 45 ≤ pageSize := by
  have short := address_fits nbr
  have newline : (ascii "\n").length = 1 := by simp [ascii]
  have size : pageSize = 256 := rfl
  obtain ⟨middle, address, reached⟩ := printsAddress carries nbr (by omega)
  obtain ⟨next, ended, final⟩ := printsText reached (show 0 ∉ ascii "\n" by simp [ascii])
    (by rw [List.length_append, newline]; omega)
  rw [List.append_assoc] at final
  simp -implicitDefEqProofs only [neighborAdd, address, ended, ok_bind]
  split
  next full =>
    obtain ⟨last, sent, -, empty⟩ := final.flush (by simp [newline, ← List.length_pos_iff])
    exact ⟨last.restart, [], by simp -implicitDefEqProofs only [sent, ok_bind, pure_ok], empty, by decide⟩
  next free =>
    refine ⟨next, _, rfl, final, ?_⟩
    rw [← final.written.filled]
    omega

private theorem neighbors_carry (neighbors : List IpAddr) (carries : Carries pageSize output all held)
    (room : held.length + 45 ≤ pageSize) : ∃ next rest, neighbors.foldlM neighborAdd output = .ok next ∧
      Carries pageSize next (all ++ neighbors.flatMap neighborText) rest ∧ rest.length + 45 ≤ pageSize := by
  induction neighbors generalizing output all held with
  | nil => exact ⟨output, held, rfl, by simpa using carries, room⟩
  | cons nbr neighbors ih =>
    obtain ⟨middle, text, added, reached, fits⟩ := neighborAdd_carries carries room nbr
    obtain ⟨next, rest, done, final, free⟩ := ih reached fits
    rw [List.append_assoc] at final
    refine ⟨next, rest, ?_, final, free⟩
    rw [List.foldlM_cons, added]
    exact done

/-- A route up to its next hop. -/
def routeOpening (r : Route) : List UInt8 :=
  addressText r.ipaddr.words ++ (ascii "/" ++ printed 10 r.length.toNat ++ ascii " (via ")

private theorem routeOpening_length_le (r : Route) : (routeOpening r).length ≤ 49 := by
  have address := address_fits r.ipaddr
  have length := printed_length_le (show 1 < 10 by decide) (show 0 < 3 by decide) (r.length.toNat_lt.trans (by decide))
  have fixed : (ascii "/").length = 1 ∧ (ascii " (via ").length = 6 := by simp [ascii]
  simp only [routeOpening, List.length_append, fixed]
  omega

private theorem routeAdd_opens (carries : Carries pageSize output all []) (r : Route) :
    ∃ middle next, output.print (ipaddrAdd r.ipaddr) = .ok middle ∧
      middle.print (TextBuffer.add (ascii "/" ++ printed 10 r.length.toNat ++ ascii " (via ")) = .ok next ∧
      Carries pageSize next (all ++ routeOpening r) (routeOpening r) := by
  have size : pageSize = 256 := rfl
  have short := routeOpening_length_le r
  rw [routeOpening, List.length_append] at short
  obtain ⟨middle, address, reached⟩ := printsAddress carries r.ipaddr (by simp [size])
  obtain ⟨next, length, final⟩ := printsText reached (notMem_number r.length.toNat (show digitValue 0 = none from rfl)
    (show 0 ∉ ascii "/" by simp [ascii]) (show 0 ∉ ascii " (via " by simp [ascii])) (by rw [List.nil_append]; omega)
  rw [List.append_assoc, List.nil_append] at final
  exact ⟨middle, next, address, length, final⟩

private theorem routeAdd_carries (carries : Carries pageSize output all []) {r : Route} {nexthop : IpAddr}
    (known : r.nexthop = some nexthop) : ∃ next, routeAdd output r = .ok next ∧
      Carries pageSize next (all ++ routeText r nexthop) [] := by
  have size : pageSize = 256 := rfl
  have opening := routeOpening_length_le r
  have lifetime := printed_length_le (show 1 < 10 by decide) (show 0 < 10 by decide)
    (r.lifetime.toNat_lt.trans (by decide))
  have hop := address_fits nexthop
  have fixed : (ascii ") ").length = 2 ∧ (ascii "s\n").length = 2 := by simp [ascii]
  obtain ⟨close, ending⟩ := fixed
  obtain ⟨one, two, address, length, opened⟩ := routeAdd_opens carries r
  obtain ⟨three, via, reached⟩ := printsAddress opened nexthop (by omega)
  obtain ⟨four, seconds, final⟩ := printsText reached (notMem_number r.lifetime.toNat (show digitValue 0 = none from rfl)
    (show 0 ∉ ascii ") " by simp [ascii]) (show 0 ∉ ascii "s\n" by simp [ascii]))
    (by simp only [List.length_append, close, ending]; omega)
  obtain ⟨last, sent, -, empty⟩ := final.flush (by simp [← List.length_pos_iff, ending])
  refine ⟨last.restart, ?_, ?_⟩
  · simp -implicitDefEqProofs only [routeAdd, address, length, known, deref_some, via, seconds, sent, ok_bind, pure_ok]
  · simpa only [routeText, routeOpening, List.append_assoc] using empty

private theorem routes_carry (routes : List (Route × IpAddr)) (known : ∀ entry ∈ routes, entry.1.nexthop = some entry.2)
    (carries : Carries pageSize output all []) : ∃ next, (routes.map Prod.fst).foldlM routeAdd output = .ok next ∧
      Carries pageSize next (all ++ routes.flatMap fun entry => routeText entry.1 entry.2) [] := by
  induction routes generalizing output all with
  | nil => exact ⟨output, rfl, by simpa using carries⟩
  | cons entry routes ih =>
    obtain ⟨middle, added, reached⟩ := routeAdd_carries carries (known entry (by simp))
    obtain ⟨next, done, final⟩ := ih (fun other member => known other (by simp [member])) reached
    rw [List.append_assoc] at final
    refine ⟨next, ?_, final⟩
    rw [List.map_cons, List.foldlM_cons, added]
    exact done

/-- The first route whose next hop is gone ends the page. -/
theorem routes_fault {routes : List Route} (unknown : ∃ r ∈ routes, r.nexthop = none)
    (carries : Carries pageSize output all []) : routes.foldlM routeAdd output = .error .nullPointer := by
  induction routes generalizing output all with
  | nil =>
    obtain ⟨r, member, -⟩ := unknown
    cases member
  | cons r routes ih =>
    rw [List.foldlM_cons]
    cases hop : r.nexthop with
    | none =>
      obtain ⟨one, two, address, length, -⟩ := routeAdd_opens carries r
      simp -implicitDefEqProofs only [routeAdd, address, length, hop, deref_none, ok_bind, error_bind]
    | some nexthop =>
      obtain ⟨middle, added, reached⟩ := routeAdd_carries carries hop
      have later : ∃ r ∈ routes, r.nexthop = none := by
        obtain ⟨other, member, gone⟩ := unknown
        rcases List.mem_cons.mp member with rfl | behind
        · rw [gone] at hop
          cases hop
        · exact ⟨other, behind, gone⟩
      rw [added, ok_bind]
      exact ih later reached

private theorem generateRoutes_opens (neighbors : List IpAddr) {buf : Region} (sized : buf.size = pageSize) :
    ∃ output, Carries pageSize output (top ++ ascii "Neighbors<pre>" ++ neighbors.flatMap neighborText ++
        ascii "</pre>Routes<pre>\n") [] ∧
      ∀ routes, generateRoutes neighbors routes buf = do
        let output ← routes.foldlM routeAdd output
        let output ← output.print (TextBuffer.add (ascii "</pre>"))
        let output ← output.sendString
        return output.sent ++ bottom := by
  have fixed : (ascii "Neighbors<pre>").length = 14 ∧ (ascii "</pre>Routes<pre>\n").length = 18 := by simp [ascii]
  obtain ⟨heading, between⟩ := fixed
  have size : pageSize = 256 := rfl
  have initial : Carries pageSize ⟨⟨buf, 0⟩, top⟩ top [] :=
    ⟨@written_empty pageSize ⟨buf, 0⟩ sized, List.not_mem_nil, List.append_nil _⟩
  obtain ⟨one, begun, afterOne⟩ := printsText initial (show 0 ∉ ascii "Neighbors<pre>" by simp [ascii])
    (by simp [heading, size])
  obtain ⟨two, text, listed, afterTwo, room⟩ := neighbors_carry neighbors afterOne (by simp [heading, size])
  obtain ⟨three, ended, afterThree⟩ := printsText afterTwo (show 0 ∉ ascii "</pre>Routes<pre>\n" by simp [ascii])
    (by rw [between]; omega)
  obtain ⟨four, sent, -, empty⟩ := afterThree.flush (by simp [← List.length_pos_iff, between])
  refine ⟨four.restart, empty, fun routes => ?_⟩
  simp -implicitDefEqProofs only [generateRoutes, begun, listed, ended, sent, ok_bind]

/-- Whatever the buffer held, the page is sent whole: no entry of either table is cut short. -/
theorem generateRoutes_complete (neighbors : List IpAddr) {routes : List (Route × IpAddr)}
    (known : ∀ entry ∈ routes, entry.1.nexthop = some entry.2) {buf : Region} (sized : buf.size = pageSize) :
    generateRoutes neighbors (routes.map Prod.fst) buf = .ok (pageText neighbors routes) := by
  obtain ⟨output, opened, continues⟩ := generateRoutes_opens neighbors sized
  obtain ⟨listed, routed, reached⟩ := routes_carry routes known opened
  obtain ⟨next, closed, final⟩ := printsText reached (show 0 ∉ ascii "</pre>" by simp [ascii]) (by simp [ascii, pageSize])
  obtain ⟨last, finished, whole, -⟩ := final.flush (by simp [ascii])
  rw [continues]
  simp -implicitDefEqProofs only [routed, closed, finished, whole, ok_bind, pure_ok, pageText]

private theorem generateRoutes_fault (neighbors : List IpAddr) {routes : List Route} (unknown : ∃ r ∈ routes, r.nexthop = none)
    {buf : Region} (sized : buf.size = pageSize) : generateRoutes neighbors routes buf = .error .nullPointer := by
  obtain ⟨output, opened, continues⟩ := generateRoutes_opens neighbors sized
  rw [continues, routes_fault unknown opened, error_bind]

end Page

section Reading

/-- Nothing stands for one empty piece. -/
def orEmpty (pieces : List (List UInt8)) : List (List UInt8) := if pieces = [] then [[]] else pieces

/-- The eight words of an address in its usual notation: the colons part the words, and an
empty word in between stands for as many zeros as are missing. -/
def readAddress (text : List UInt8) : Option (List Nat) := do
  let pieces := text.splitOn 58
  let front := pieces.takeWhile (· ≠ [])
  let back := (pieces.reverse.takeWhile (· ≠ [])).reverse
  if front = pieces then
    guard (pieces.length = 8)
    pieces.mapM (scanned 16)
  else
    guard (pieces = orEmpty front ++ [[]] ++ orEmpty back ∧ front.length + back.length < 8)
    let before ← front.mapM (scanned 16)
    let behind ← back.mapM (scanned 16)
    return before ++ List.replicate (8 - front.length - back.length) 0 ++ behind

private theorem mapM_hexWord (words : List UInt16) : (words.map hexWord).mapM (scanned 16) = some (words.map UInt16.toNat) := by
  have digits : ∀ word, scanned 16 (hexWord word) = some word.toNat :=
    fun word => scanned_printed (by decide) (by decide) word.toNat
  exact mapM_reads digits words

private theorem hexWord_ne_nil (word : UInt16) : hexWord word ≠ [] := printed_ne_nil 16 word.toNat

private theorem takeWhile_filled {pieces : List (List UInt8)} (filled : ∀ piece ∈ pieces, piece ≠ []) (rest : List (List UInt8)) :
    (orEmpty pieces ++ [] :: rest).takeWhile (· ≠ []) = pieces := by
  rw [orEmpty]
  split
  next none =>
    rw [none]
    rfl
  next some =>
    rw [List.takeWhile_append_of_pos (by simpa using filled)]
    simp

private theorem orEmpty_reverse (pieces : List (List UInt8)) : (orEmpty pieces).reverse = orEmpty pieces.reverse := by
  rw [orEmpty, orEmpty]
  split <;> simp_all

private theorem notMem_hexWord {byte : UInt8} (plain : digitValue byte = none) (word : UInt16) : byte ∉ hexWord word :=
  notMem_printed 16 word.toNat (by decide) (by decide) plain

private theorem splitOn_joined (words : List UInt16) : (joined words).splitOn 58 = orEmpty (words.map hexWord) := by
  by_cases none : words = []
  · subst none
    rfl
  · have apart : ∀ piece ∈ words.map hexWord, 58 ∉ piece := by
      intro piece member
      obtain ⟨word, -, rfl⟩ := List.mem_map.mp member
      exact notMem_hexWord (by decide) word
    rw [orEmpty, if_neg (by simpa using none)]
    exact List.splitOn_intercalate 58 apart (by simpa using none)

private theorem splitOn_gap (front back : List UInt16) : (joined front ++ ascii "::" ++ joined back).splitOn 58 =
    orEmpty (front.map hexWord) ++ [] :: orEmpty (back.map hexWord) := by
  have shape : joined front ++ ascii "::" ++ joined back = joined front ++ 58 :: ([] ++ 58 :: joined back) := by
    rw [List.append_assoc]
    rfl
  rw [shape, List.splitOn_append_cons_self, List.splitOn_append_cons_self, splitOn_joined, splitOn_joined]
  rfl

private theorem filled_words (words : List UInt16) : ∀ piece ∈ words.map hexWord, piece ≠ [] := by
  intro piece member
  obtain ⟨word, -, rfl⟩ := List.mem_map.mp member
  exact hexWord_ne_nil word

private theorem takeWhile_words (words : List UInt16) : (words.map hexWord).takeWhile (· ≠ []) = words.map hexWord :=
  List.takeWhile_eq_self_iff.mpr (by simpa using filled_words words)

private theorem readAddress_addressText {words : List UInt16} (eight : words.length = 8) :
    readAddress (addressText words) = some (words.map UInt16.toNat) := by
  by_cases zero : 0 ∈ words
  · obtain ⟨front, count, back, shape, -, -, text⟩ := words_split zero
    have before := takeWhile_filled (filled_words front) (orEmpty (back.map hexWord))
    have behind : ((orEmpty (front.map hexWord) ++ [] :: orEmpty (back.map hexWord)).reverse.takeWhile (· ≠ [])).reverse =
        back.map hexWord := by
      have turned : ∀ piece ∈ (back.map hexWord).reverse, piece ≠ [] := by
        intro piece member
        exact filled_words back piece (List.mem_reverse.mp member)
      rw [List.reverse_append, List.reverse_cons, List.append_assoc, orEmpty_reverse, List.singleton_append,
        takeWhile_filled turned, List.reverse_reverse]
    have gap : ¬ front.map hexWord = orEmpty (front.map hexWord) ++ [] :: orEmpty (back.map hexWord) := by
      intro same
      have member : [] ∈ front.map hexWord := by
        rw [same]
        simp
      exact filled_words front [] member rfl
    rw [shape, List.length_append, List.length_append, List.length_replicate] at eight
    have count_eq : 8 - front.length - back.length = count + 1 := by omega
    have few : front.length + back.length < 8 := by omega
    simp only [readAddress, text, splitOn_gap, before, behind, if_neg gap, mapM_hexWord]
    simp [few, shape, count_eq]
  · have filled : words ≠ [] := by
      intro none
      rw [none] at eight
      cases eight
    have pieces : orEmpty (words.map hexWord) = words.map hexWord := if_neg (by simpa using filled)
    simp only [readAddress, addressText, if_neg zero, splitOn_joined, pieces, takeWhile_words]
    simp only [guard, List.length_map, eight, if_true, mapM_hexWord]
    rfl

def heading : List UInt8 := top ++ ascii "Neighbors<pre>"

def between : List UInt8 := ascii "</pre>Routes<pre>"

def closing : List UInt8 := ascii "</pre></body></html>"

/-- A line of the second table: an address, the length of its prefix, the next hop and the
lifetime. -/
def readRoute (line : List UInt8) : Option (List Nat × Nat × List Nat × Nat) := do
  let (address, rest) ← cut 47 line
  let (length, rest) ← cut 32 rest
  let rest ← (ascii "(via ").isPrefixOf? rest
  let (nexthop, rest) ← cut 41 rest
  let rest ← (ascii " ").isPrefixOf? rest
  let (lifetime, rest) ← cut 115 rest
  guard (rest = [])
  return (← readAddress address, ← scanned 10 length, ← readAddress nexthop, ← scanned 10 lifetime)

/-- Both tables of a page. -/
def readPage (text : List UInt8) : Option (List (List Nat) × List (List Nat × Nat × List Nat × Nat)) := do
  let rest ← heading.isPrefixOf? text
  let lines := rest.splitOn 10
  let neighbors := lines.takeWhile (· ≠ between)
  let routes := (lines.dropWhile (· ≠ between)).drop 1
  guard (closing ∈ routes)
  let routes := routes.takeWhile (· ≠ closing)
  guard (lines = neighbors ++ [between] ++ routes ++ [closing, []])
  return (← neighbors.mapM readAddress, ← routes.mapM readRoute)

def IpAddr.wordValues (addr : IpAddr) : List Nat := addr.words.map UInt16.toNat

def routeLine (entry : Route × IpAddr) : List UInt8 :=
  addressText entry.1.ipaddr.words ++ 47 :: (printed 10 entry.1.length.toNat ++ 32 :: (ascii "(via " ++
    (addressText entry.2.words ++ 41 :: (ascii " " ++ (printed 10 entry.1.lifetime.toNat ++ 115 :: [])))))

private theorem routeText_line (entry : Route × IpAddr) : routeText entry.1 entry.2 = routeLine entry ++ [10] := by
  have slash : ascii "/" = [47] := by simp [ascii]
  have via : ascii " (via " = 32 :: ascii "(via " := by simp [ascii]
  have close : ascii ") " = 41 :: ascii " " := by simp [ascii]
  have ending : ascii "s\n" = [115, 10] := by simp [ascii]
  simp only [routeText, routeLine, slash, via, close, ending, List.append_assoc, List.cons_append, List.nil_append]

private theorem readRoute_routeLine (entry : Route × IpAddr) : readRoute (routeLine entry) =
    some (entry.1.ipaddr.wordValues, entry.1.length.toNat, entry.2.wordValues, entry.1.lifetime.toNat) := by
  have number : ∀ value, scanned 10 (printed 10 value) = some value := scanned_printed (by decide) (by decide)
  have slash := notMem_addressText entry.1.ipaddr.words (show (47 : UInt8) ≠ 58 by decide) (by decide)
  have blank := notMem_printed 10 entry.1.length.toNat (by decide) (by decide) (show digitValue 32 = none from rfl)
  have close := notMem_addressText entry.2.words (show (41 : UInt8) ≠ 58 by decide) (by decide)
  have unit := notMem_printed 10 entry.1.lifetime.toNat (by decide) (by decide) (show digitValue 115 = none from rfl)
  simp only [readRoute, routeLine, cut_append slash, cut_append blank, cut_append close, cut_append unit,
    isPrefixOf?_append, Option.bind_eq_bind, Option.bind_some, number, readAddress_addressText (words_length _),
    IpAddr.wordValues]
  rfl

private theorem pageText_lines (neighbors : List IpAddr) (routes : List (Route × IpAddr)) : pageText neighbors routes =
    heading ++ (((neighbors.map (fun nbr => addressText nbr.words) ++ [between] ++ routes.map routeLine ++ [closing]).flatMap
      fun line => line ++ [10]) ++ []) := by
  have newline : ascii "\n" = [10] := by simp [ascii]
  have middle : ascii "</pre>Routes<pre>\n" = between ++ [10] := by simp [ascii, between]
  have last : ascii "</pre>" ++ bottom = closing ++ [10] := by simp [ascii, bottom, closing]
  have listed : neighbors.flatMap neighborText =
      (neighbors.map fun nbr => addressText nbr.words).flatMap fun line => line ++ [10] := by
    rw [List.flatMap_map]
    rfl
  have routed : (routes.flatMap fun entry => routeText entry.1 entry.2) =
      (routes.map routeLine).flatMap fun line => line ++ [10] := by
    rw [List.flatMap_map]
    simp only [routeText_line]
  rw [pageText, middle, List.append_assoc, last, listed, routed, heading]
  simp only [List.flatMap_append, List.flatMap_singleton, List.append_assoc, List.append_nil]

private theorem notMem_routeLine {byte : UInt8} (plain : digitValue byte = none) (apart : byte ∉ ascii ":/ (via)s")
    (entry : Route × IpAddr) : byte ∉ routeLine entry := by
  have others : byte ≠ 58 ∧ byte ≠ 47 ∧ byte ≠ 32 ∧ byte ≠ 41 ∧ byte ≠ 115 ∧ byte ∉ ascii "(via " := by
    simp [ascii] at apart ⊢
    simp [apart]
  obtain ⟨colon, slash, blank, close, unit, via⟩ := others
  have first := notMem_addressText entry.1.ipaddr.words colon plain
  have second := notMem_addressText entry.2.words colon plain
  have length := notMem_printed 10 entry.1.length.toNat (by decide) (by decide) plain
  have lifetime := notMem_printed 10 entry.1.lifetime.toNat (by decide) (by decide) plain
  have space : ascii " " = [32] := by simp [ascii]
  simp [routeLine, first, second, length, lifetime, slash, blank, close, unit, via, space]

/-- The page determines both tables. -/
theorem readPage_pageText (neighbors : List IpAddr) (routes : List (Route × IpAddr)) :
    readPage (pageText neighbors routes) = some (neighbors.map IpAddr.wordValues, routes.map fun entry =>
      (entry.1.ipaddr.wordValues, entry.1.length.toNat, entry.2.wordValues, entry.1.lifetime.toNat)) := by
  have addresses : ∀ nbr : IpAddr, readAddress (addressText nbr.words) = some nbr.wordValues :=
    fun nbr => readAddress_addressText (words_length nbr)
  -- What stands between and behind the tables begins with a tag, and no entry has one.
  have first : ∀ line ∈ neighbors.map fun nbr => addressText nbr.words, line ≠ between := by
    rintro line member rfl
    obtain ⟨nbr, -, same⟩ := List.mem_map.mp member
    have tag := notMem_addressText nbr.words (show (60 : UInt8) ≠ 58 by decide) rfl
    rw [same] at tag
    simp [between, ascii] at tag
  have second : ∀ line ∈ routes.map routeLine, line ≠ closing := by
    rintro line member rfl
    obtain ⟨entry, -, same⟩ := List.mem_map.mp member
    have tag := notMem_routeLine (show digitValue 60 = none from rfl) (by simp [ascii]) entry
    rw [same] at tag
    simp [closing, ascii] at tag
  have unbroken : ∀ line ∈ neighbors.map (fun nbr => addressText nbr.words) ++ [between] ++ routes.map routeLine ++ [closing],
      10 ∉ line := by
    intro line member
    simp only [List.append_assoc, List.mem_append, List.mem_map, List.mem_singleton] at member
    rcases member with ⟨nbr, -, rfl⟩ | rfl | ⟨entry, -, rfl⟩ | rfl
    · exact notMem_addressText nbr.words (by decide) rfl
    · simp [between, ascii]
    · exact notMem_routeLine rfl (by simp [ascii]) entry
    · simp [closing, ascii]
  have lines := splitOn_lines unbroken []
  obtain ⟨front, behind⟩ := takeWhile_before first (routes.map routeLine ++ [closing, []])
  obtain ⟨listed, -⟩ := takeWhile_before second [[]]
  have shape : neighbors.map (fun nbr => addressText nbr.words) ++ [between] ++ routes.map routeLine ++ [closing] ++ [[]] =
      neighbors.map (fun nbr => addressText nbr.words) ++ between :: (routes.map routeLine ++ [closing, []]) := by
    simp only [List.append_assoc, List.cons_append, List.nil_append]
  rw [List.splitOn_nil, shape] at lines
  rw [readPage, pageText_lines, isPrefixOf?_append]
  simp only [Option.bind_eq_bind, Option.bind_some, lines, front, behind, List.drop_one, List.tail_cons, listed,
    mapM_reads addresses, mapM_reads readRoute_routeLine]
  simp [guard]

end Reading

/-- Whatever the buffer held, both tables read back from the page that is sent. It is sent
exactly if every next hop is still known. -/
theorem routes_page_reads_back (neighbors : List IpAddr) (routes : List Route) (buf : Region)
    (sized : buf.size = pageSize) :
    (∀ entries : List (Route × IpAddr), routes = entries.map Prod.fst →
      (∀ entry ∈ entries, entry.1.nexthop = some entry.2) →
      ∃ page, generateRoutes neighbors routes buf = .ok page ∧
        readPage page = some (neighbors.map IpAddr.wordValues, entries.map fun entry =>
          (entry.1.ipaddr.wordValues, entry.1.length.toNat, entry.2.wordValues, entry.1.lifetime.toNat))) ∧
    ((∃ r ∈ routes, r.nexthop = none) → generateRoutes neighbors routes buf = .error .nullPointer) := by
  refine ⟨?_, fun unknown => generateRoutes_fault neighbors unknown sized⟩
  rintro entries rfl known
  exact ⟨pageText neighbors entries, generateRoutes_complete neighbors known sized, readPage_pageText neighbors entries⟩

def sampleAddr : IpAddr := ⟨fun i => if i = 0 then 0xfd else if i = 15 then 7 else 0⟩

def sampleRoute : Route := ⟨sampleAddr, 128, some sampleAddr, 3600⟩

/-- The static buffer at first. -/
def zeroBuf : Region := ⟨List.replicate pageSize 0, fun _ => 0⟩

theorem sample_page : ∃ page, generateRoutes [sampleAddr] [sampleRoute] zeroBuf = .ok page ∧
    readPage page = some ([sampleAddr.wordValues], [(sampleAddr.wordValues, 128, sampleAddr.wordValues, 3600)]) :=
  (routes_page_reads_back [sampleAddr] [sampleRoute] zeroBuf List.length_replicate).1 [(sampleRoute, sampleAddr)] rfl
    (by simp [sampleRoute])

end TinyIpfix
