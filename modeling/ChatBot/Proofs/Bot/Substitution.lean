import ChatBot.Proofs.Bot.Setup
import ChatBot.Proofs.Variables

/-!
# Values in place of variables

What a variable stands for may be any function of the bot, the chat and the sender. Whatever
variables are registered, a text with their values is what one scan from left to right makes of it
(`Bot.substitute_is_one_scan`).
-/

namespace ChatBot

/-- What gives a variable its value in a reply to a sender in a chat. -/
abbrev Resolver := Bot → Chat → User → Option String

namespace Bot

open Variables

/-- Variables with their values in a reply. -/
def valued (vars : List (String × Resolver)) (b : Bot) (chat : Chat) (sender : User) :
    List (List Char × Option (List Char)) :=
  vars.map fun (name, resolve) => (name.toList, (resolve b chat sender).map String.toList)

/-- A text with values in place of variables, whatever gives them their values. -/
def substituteBy (vars : List (String × Resolver)) (b : Bot) (chat : Chat) (sender : User)
    (text : String) : String :=
  String.ofList (Variables.substitute (valued vars b chat sender) text.toList)

/-- The variables of a bot with what gives them their values. -/
def resolvers (b : Bot) : List (String × Resolver) :=
  b.vars.map fun (name, v) => (name, fun b chat sender => b.value? chat sender v)

variable {vars vars' : List (String × Resolver)} {b : Bot} {chat : Chat} {sender : User}

theorem substitute_eq_substituteBy (b : Bot) (chat : Chat) (sender : User) (text : String) :
    b.substitute chat sender text = substituteBy b.resolvers b chat sender text := by
  rw [substituteBy, valued, resolvers, List.map_map]
  rfl

theorem toList_substituteBy (text : String) : (substituteBy vars b chat sender text).toList =
    Variables.substitute (valued vars b chat sender) text.toList :=
  String.toList_ofList

namespace Registered

theorem resolvers (h : Registered b.vars) : Registered b.resolvers where
  nonempty _ hv := by
    obtain ⟨w, hw, rfl⟩ := List.mem_map.1 hv
    exact h.nonempty w hw
  nodup := by
    rw [Bot.resolvers, List.map_map]
    exact h.nodup

theorem valued_ne_nil (h : Registered vars) : ∀ v ∈ valued vars b chat sender, v.1 ≠ [] := by
  rintro _ hv hnil
  obtain ⟨w, hw, rfl⟩ := List.mem_map.1 hv
  exact h.nonempty w hw (String.toList_eq_nil_iff.1 hnil)

theorem nodup_valued (h : Registered vars) : ((valued vars b chat sender).map (·.1)).Nodup := by
  have hnames : (valued vars b chat sender).map (·.1) = (vars.map (·.1)).map String.toList := by
    rw [valued, List.map_map, List.map_map]
    rfl
  rw [hnames]
  exact h.nodup.map fun _ _ => String.toList_injective

end Registered

/-- **Substitution is one scan.** Whatever variables are registered, a text with values in place of
them is what one scan from left to right makes of it, and nothing else is. In what order they were
registered does not matter. Where the longest name that follows a sign has a value, this is written
and nothing of it is read again; where it has none, sign and name are left as they are, whether or
not a shorter name has a value. A bot has registered variables only, and substitutes so in its
replies. -/
theorem substitute_is_one_scan :
    (∀ vars : List (String × Resolver), Registered vars → ∀ b chat sender,
      let values := valued vars b chat sender
      let substituted := substituteBy vars b chat sender
      (∀ text out, Scan values text.toList out ↔ out = (substituted text).toList) ∧
      (∀ vars', vars.Perm vars' → substituteBy vars' b chat sender = substituted) ∧
      (∀ name value after : String,
        Longest values (name ++ after).toList name.toList (some value.toList) after.toList →
          substituted ("%" ++ name ++ after) = value ++ substituted after) ∧
      ∀ name after : String,
        Longest values (name ++ after).toList name.toList none after.toList →
          sign ∉ name.toList →
            substituted ("%" ++ name ++ after) = "%" ++ name ++ substituted after) ∧
    ∀ b, Reachable b → Registered b.resolvers ∧
      ∀ chat sender, b.substitute chat sender = substituteBy b.resolvers b chat sender := by
  refine ⟨fun vars h b chat sender => ?_, fun b hb => ⟨hb.registered.resolvers, fun chat sender =>
    funext fun text => b.substitute_eq_substituteBy chat sender text⟩⟩
  intro values substituted
  have hne : ∀ v ∈ values, v.1 ≠ [] := h.valued_ne_nil
  have hnodup : (values.map (·.1)).Nodup := h.nodup_valued
  have hsign (name after : String) :
      ("%" ++ name ++ after).toList = sign :: (name ++ after).toList := by
    rw [String.append_assoc, String.toList_append]
    rfl
  refine ⟨fun text out => ?_, fun vars' hperm => ?_, fun name value after hlongest => ?_,
    fun name after hlongest hname => ?_⟩
  · rw [toList_substituteBy]
    exact scan_iff hne hnodup
  · funext text
    exact congrArg String.ofList (substitute_perm hne hnodup (hperm.map _) text.toList).symm
  · rw [← String.toList_inj, String.toList_append, toList_substituteBy, toList_substituteBy, hsign]
    exact substitute_sign_of_value ((longest?_eq_some_iff hne hnodup).2 ⟨_, hlongest⟩)
  · have hnone : ∀ value rest,
        longest? values (name ++ after).toList ≠ some (some value, rest) := by
      rw [(longest?_eq_some_iff hne hnodup).2 ⟨_, hlongest⟩]
      exact nofun
    rw [← String.toList_inj, String.toList_append, toList_substituteBy, toList_substituteBy, hsign,
      substitute_sign_of_none hnone, String.toList_append, substitute_append_of_notMem hname,
      String.toList_append]
    rfl

theorem substitute_is_one_scan_prefixes :
    let vars : List (String × Resolver) :=
      [("a", fun _ _ _ => some "%ab"), ("ab", fun _ _ _ => none),
        ("name", fun _ _ u => some u.name)]
    let ann : User := ⟨⟨"Console"⟩, "ann"⟩
    substituteBy vars default default ann "%ab%a%name" = "%ab%abann" ∧
      substituteBy vars.reverse default default ann = substituteBy vars default default ann ∧
      echoing.substitute default ann = substituteBy echoing.resolvers echoing default ann := by
  intro vars ann
  have hvars : Registered vars := ⟨by decide, by decide⟩
  obtain ⟨hscan, hperm, hvalue, hnone⟩ := substitute_is_one_scan.1 vars hvars default default ann
  have hbot := (substitute_is_one_scan.2 echoing reachable_echoing).2 default ann
  refine ⟨?_, hperm _ vars.reverse_perm.symm, hbot⟩
  have hfirst := hnone "ab" "%a%name" ⟨by decide, by decide, by decide⟩ (by decide)
  have hsecond := hvalue "a" "%ab" "%name" ⟨by decide, by decide, by decide⟩
  have hthird := hvalue "name" "ann" "" ⟨by decide, by decide, by decide⟩
  have hend : "" = substituteBy vars default default ann "" :=
    String.toList_inj.1 ((hscan "" []).1 .nil)
  rw [← hend] at hthird
  rw [show "%name" = "%" ++ "name" ++ "" by decide, hthird] at hsecond
  rw [show "%ab%a%name" = "%" ++ "ab" ++ "%a%name" by decide, hfirst]
  rw [show "%a%name" = "%" ++ "a" ++ ("%" ++ "name" ++ "") by decide, hsecond]
  decide

end Bot

end ChatBot
