import Hashgate.Quote.Store

/-! # The quotes at hand

The quotes that a server tells unless it is given others. -/

namespace Hashgate

def bundledQuotes : List Quote :=
  [⟨"q01", "The only true wisdom is in knowing you know nothing.", some "Socrates"⟩,
   ⟨"q02", "Knowing yourself is the beginning of all wisdom.", some "Aristotle"⟩,
   ⟨"q03", "The journey of a thousand miles begins with one step.", some "Lao Tzu"⟩,
   ⟨"q04", "Waste no more time arguing what a good man should be. Be one.", some "Marcus Aurelius"⟩,
   ⟨"q05", "He who has a why to live can bear almost any how.", some "Friedrich Nietzsche"⟩,
   ⟨"q06", "It is not that we have a short time to live, but that we waste a lot of it.",
    some "Seneca"⟩,
   ⟨"q07", "Wealth consists not in having great possessions, but in having few wants.",
    some "Epictetus"⟩,
   ⟨"q08", "The unexamined life is not worth living.", some "Socrates"⟩,
   ⟨"q09", "Patience is bitter, but its fruit is sweet.", some "Jean-Jacques Rousseau"⟩,
   ⟨"q10", "Turn your wounds into wisdom.", some "Oprah Winfrey"⟩,
   ⟨"q11", "Well done is better than well said.", some "Benjamin Franklin"⟩,
   ⟨"q12", "No man ever steps in the same river twice.", some "Heraclitus"⟩,
   ⟨"q13", "We are what we repeatedly do. Excellence, then, is not an act, but a habit.",
    some "Will Durant"⟩,
   ⟨"q14", "Life must be understood backward. But it must be lived forward.",
    some "Soren Kierkegaard"⟩,
   ⟨"q15", "The measure of intelligence is the ability to change.", some "Albert Einstein"⟩,
   ⟨"q16", "A fool thinks himself to be wise, but a wise man knows himself to be a fool.",
    some "William Shakespeare"⟩,
   ⟨"q17", "Nature does not hurry, yet everything is accomplished.", some "Lao Tzu"⟩,
   ⟨"q18", "If you want to be happy, be.", some "Leo Tolstoy"⟩]

def Store.bundled : Except Failure Store := ofQuotes bundledQuotes

end Hashgate
