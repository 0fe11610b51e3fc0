import Harvest.Page.Call

/-!
Contract: the scripts that a live page is sent.

A call goes to a page as one expression, behind the helpers that answer it. They are put in place by the first script that
a page gets and left alone by those after it.
-/

namespace Harvest

/-- The helpers that answer calls in a page. -/
def helperScript : String := "
(function () \x7b
    if (window.__pageParser) \x7b return; \x7d

    function select(selector) \x7b
        var parts = selector.split(/:eq\\((\\d+)\\)/);
        var current = null;
        for (var i = 0; i < parts.length; i += 2) \x7b
            var segment = parts[i];
            var trimmed = segment.trim();
            if (current === null) \x7b
                current = trimmed ? Array.prototype.slice.call(document.querySelectorAll(trimmed)) : [];
            \x7d else if (trimmed) \x7b
                var next = [];
                var descendant = /^\\s/.test(segment);
                current.forEach(function (el) \x7b
                    if (trimmed.charAt(0) === '>') \x7b
                        Array.prototype.forEach.call(el.children, function (child) \x7b
                            if (child.matches(trimmed.slice(1).trim())) \x7b next.push(child); \x7d
                        \x7d);
                    \x7d else if (descendant) \x7b
                        Array.prototype.push.apply(next, el.querySelectorAll(trimmed));
                    \x7d else if (el.matches(trimmed)) \x7b
                        next.push(el);
                    \x7d
                \x7d);
                current = next.filter(function (el, index) \x7b return next.indexOf(el) === index; \x7d);
            \x7d
            if (i + 1 < parts.length) \x7b
                var n = parseInt(parts[i + 1], 10);
                current = current[n] ? [current[n]] : [];
            \x7d
        \x7d
        return current || [];
    \x7d

    function isVisible(el) \x7b
        var style = window.getComputedStyle(el);
        var boxed = el.offsetWidth || el.offsetHeight || el.getClientRects().length;
        return !!boxed && style.visibility !== 'hidden' && style.display !== 'none';
    \x7d

    function read(el, call) \x7b
        if (call.attr) \x7b return el.getAttribute(call.attr); \x7d
        switch (call.prop) \x7b
            case undefined:
            case null: return el.textContent;
            case 'value': return el.value;
            case 'innerHTML': return el.innerHTML;
            case 'outerHTML': return el.outerHTML;
            case 'textContent': return el.textContent;
            case 'innerText': return el.innerText;
            default: return el.getAttribute(call.prop);
        \x7d
    \x7d

    function fire(el, type) \x7b
        el.dispatchEvent(new MouseEvent(type, \x7b bubbles: true, cancelable: true, view: window \x7d));
    \x7d

    function each(call, fn) \x7b
        var els = select(call.selector);
        els.forEach(fn);
        return els.length > 0;
    \x7d

    var routines = \x7b
        query: function (call) \x7b
            var els;
            try \x7b els = select(call.selector); \x7d catch (e) \x7b return null; \x7d
            return els
                .map(function (el) \x7b return read(el, call); \x7d)
                .filter(function (v) \x7b return v !== null && v !== undefined; \x7d)
                .map(function (v) \x7b return String(v).trim(); \x7d);
        \x7d,
        count: function (call) \x7b return select(call.selector).length; \x7d,
        visible: function (call) \x7b return select(call.selector).some(isVisible); \x7d,
        click: function (call) \x7b
            var els = select(call.selector);
            if (els.length) \x7b els[0].click(); \x7d
            return els.length > 0;
        \x7d,
        mouseDown: function (call) \x7b return each(call, function (el) \x7b fire(el, 'mousedown'); \x7d); \x7d,
        mouseUp: function (call) \x7b return each(call, function (el) \x7b fire(el, 'mouseup'); \x7d); \x7d,
        focus: function (call) \x7b
            var els = select(call.selector);
            if (els.length) \x7b els[0].focus(); \x7d
            return els.length > 0;
        \x7d,
        blur: function (call) \x7b return each(call, function (el) \x7b el.blur(); \x7d); \x7d,
        type: function (call) \x7b
            return each(call, function (el) \x7b
                el.value = call.text;
                el.dispatchEvent(new Event('input', \x7b bubbles: true \x7d));
                el.dispatchEvent(new Event('change', \x7b bubbles: true \x7d));
            \x7d);
        \x7d,
        changeElement: function (call) \x7b
            return each(call, function (el) \x7b
                Object.keys(call.style || \x7b\x7d).forEach(function (k) \x7b el.style[k] = call.style[k]; \x7d);
                Object.keys(call.attr || \x7b\x7d).forEach(function (k) \x7b
                    if (call.attr[k] === null) \x7b el.removeAttribute(k); \x7d
                    else \x7b el.setAttribute(k, call.attr[k]); \x7d
                \x7d);
            \x7d);
        \x7d,
        scroll: function (call) \x7b
            if (call.selector) \x7b
                return each(call, function (el) \x7b el.scrollTop = el.scrollHeight; \x7d);
            \x7d
            window.scrollTo(0, document.body.scrollHeight);
            return true;
        \x7d,
        scrollHeight: function (call) \x7b
            if (call.selector) \x7b
                var els = select(call.selector);
                return els.length ? els[0].scrollHeight : 0;
            \x7d
            return document.body.scrollHeight;
        \x7d,
        url: function () \x7b return window.location.href; \x7d,
        readyState: function () \x7b return document.readyState; \x7d,
        injectHelpers: function () \x7b return true; \x7d
    \x7d;

    window.__pageParser = \x7b
        run: function (call) \x7b
            var routine = routines[call.call];
            if (!routine) \x7b throw new Error('unsupported page call ' + call.call); \x7d
            return routine(call);
        \x7d
    \x7d;
\x7d)();
"

def PageCall.script (call : PageCall) : String :=
  helperScript ++ call.expression

end Harvest
