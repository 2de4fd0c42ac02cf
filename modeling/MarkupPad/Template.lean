import MarkupPad.Text.Basic

/-!
# Page section templates

Ready-made sections: markup together with the styles that go with it.
-/

namespace MarkupPad

/-- A page section that can be appended to a project. -/
structure Template where
  id : Text
  name : Text
  markup : Text
  style : Text
  deriving Repr, DecidableEq

namespace Template

/-- Lines as one text. -/
def ofLines (lines : List String) : Text := Text.join ['\n'] (lines.map String.toList)

/-- A big heading over a button. -/
def hero : Template where
  id := "hero".toList
  name := "Hero Section".toList
  markup := ofLines [
      "<section class=\"hero\">",
      "  <div class=\"container\">",
      "    <h1>Modern Solutions</h1>",
      "    <p>Build your next idea in minutes</p>",
      "    <button>Get Started</button>",
      "  </div>",
      "</section>"]
  style := ofLines [
      ".hero \x7b height: 80vh; display: flex; align-items: center; justify-content: center; background: #f8fafc; text-align: center; \x7d",
      ".container \x7b max-width: 800px; padding: 2rem; \x7d",
      "h1 \x7b font-size: 3.5rem; color: #1e293b; margin-bottom: 1rem; \x7d",
      "p \x7b font-size: 1.25rem; color: #64748b; margin-bottom: 2rem; \x7d",
      "button \x7b background: #6366f1; color: white; border: none; padding: 1rem 2rem; border-radius: 0.5rem; font-weight: 600; cursor: pointer; \x7d"]

/-- Three cards side by side. -/
def featureGrid : Template where
  id := "card-grid".toList
  name := "Feature Grid".toList
  markup := ofLines [
      "<div class=\"grid\">",
      "  <div class=\"card\"><h3>Fast</h3><p>Optimized for speed.</p></div>",
      "  <div class=\"card\"><h3>Smart</h3><p>Completes as you type.</p></div>",
      "  <div class=\"card\"><h3>Live</h3><p>Real-time updates.</p></div>",
      "</div>"]
  style := ofLines [
      ".grid \x7b display: grid; grid-template-columns: repeat(3, 1fr); gap: 2rem; padding: 4rem; \x7d",
      ".card \x7b padding: 2rem; border: 1px solid #e2e8f0; border-radius: 1rem; background: white; box-shadow: 0 4px 6px -1px rgb(0 0 0 / 0.1); \x7d",
      "h3 \x7b color: #6366f1; margin-bottom: 0.5rem; \x7d"]

/-- The templates on offer. -/
def all : List Template := [hero, featureGrid]

/-- The template of an id. -/
def find? (id : Text) : Option Template := all.find? (·.id = id)

end Template

end MarkupPad
